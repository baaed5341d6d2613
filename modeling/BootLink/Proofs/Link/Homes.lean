/-
# `BootLink.Proofs.Link.Homes` — every address of a whole belongs to one unit

The units of a link share out its addresses.  Its code is the code of the units, block after
block, and so is its data.  A block ends before the later ones start (`extent_take_le_take`), and
the blocks leave nothing out (`exists_block`).  So an address inside the whole is the place of an
address inside a unit, and of one only:

    exists_place    a = (siteOf ps k m).place (m.layout.kindOf b) b   for some k, m, b
    place_inj       and k and b are the only ones

Code and data need not be told apart in `place_inj`: placing keeps the kind, so no instruction is
placed where a data cell is.
-/
import BootLink.Proofs.Link.Run

namespace BootLink

theorem Layout.kindOf_ne_absolute_iff {l : Layout} {a : Int} :
    l.kindOf a ≠ .absolute ↔ 0 ≤ a ∧ a < l.size := by
  rw [ne_eq, kindOf_eq_absolute_iff, size, Int.natCast_add]
  omega

theorem Site.place_injective (s : Site) (t : AddressKind) : Function.Injective (s.place t) := by
  intro a b same
  cases t with
  | code | data => simp only [place] at same; omega
  | absolute | unresolved => exact same

namespace Program

variable {ps : List Program} {k k' : Nat} {m m' : Program} {a b b' : Int}

/-! ## Blocks -/

section
variable (size : Layout → Nat) (zero : size ⟨0, 0⟩ = 0)
  (add : ∀ l l', size (l + l') = size l + size l')
include zero add

/-- What is below the size of the whole, `size` being one of the two parts of a layout, is in the
block of a unit. -/
theorem exists_block :
    ∀ (ps : List Program) (i : Nat), i < size (extent ps) →
      ∃ k m j, ps[k]? = some m ∧ j < size m.layout ∧ i = size (extent (ps.take k)) + j
  | [], i, h => absurd h (zero.symm ▸ Nat.not_lt_zero i)
  | p :: ps, i, h => by
      by_cases here : i < size p.layout
      · refine ⟨0, p, i, rfl, here, ?_⟩
        rw [List.take_zero, extent, zero, Nat.zero_add]
      · -- behind the first unit: the block is one of the others, counted from there
        rw [extent, add] at h
        obtain ⟨k, m, j, hk, hj, hi⟩ := exists_block ps (i - size p.layout) (by omega)
        refine ⟨k + 1, m, j, hk, hj, ?_⟩
        rw [List.take_succ_cons, extent, add]
        omega

end

/-- The block of a unit ends before that of a later one starts. -/
theorem extent_take_le_take (hk : ps[k]? = some m) (earlier : k < k') :
    (extent (ps.take k)).code + m.layout.code ≤ (extent (ps.take k')).code ∧
      (extent (ps.take k)).data + m.layout.data ≤ (extent (ps.take k')).data := by
  have unit : (ps.take k')[k]? = some m := by rw [List.getElem?_take_of_lt earlier, hk]
  have fits := extent_take_le unit
  rwa [List.take_take, Nat.min_eq_left (Nat.le_of_lt earlier)] at fits

/-! ## Homes -/

theorem exists_place (inside : (extent ps).kindOf a ≠ .absolute) :
    ∃ k m b, ps[k]? = some m ∧ m.layout.kindOf b ≠ .absolute ∧
      a = (siteOf ps k m).place (m.layout.kindOf b) b := by
  cases t : (extent ps).kindOf a with
  | code =>
      obtain ⟨low, high⟩ := Layout.kindOf_eq_code_iff.mp t
      obtain ⟨k, m, j, hk, hj, hi⟩ :=
        exists_block Layout.code rfl Layout.code_add ps a.toNat (by omega)
      have kind : m.layout.kindOf j = .code := Layout.kindOf_eq_code_iff.mpr (by omega)
      refine ⟨k, m, j, hk, by rw [kind]; decide, ?_⟩
      rw [kind]
      simp only [Site.place, siteOf]
      omega
  | data =>
      obtain ⟨low, high⟩ := Layout.kindOf_eq_data_iff.mp t
      obtain ⟨k, m, j, hk, hj, hi⟩ :=
        exists_block Layout.data rfl Layout.data_add ps (a - (extent ps).code).toNat (by omega)
      have kind : m.layout.kindOf (m.layout.code + j) = .data :=
        Layout.kindOf_eq_data_iff.mpr (by omega)
      refine ⟨k, m, m.layout.code + j, hk, by rw [kind]; decide, ?_⟩
      rw [kind]
      simp only [Site.place, siteOf]
      omega
  | absolute => exact absurd t inside
  | unresolved => exact absurd t Layout.kindOf_ne_unresolved

/-- Addresses of one kind are placed in the order of their units. -/
theorem place_lt_place (hk : ps[k]? = some m) (earlier : k < k')
    (kinds : m.layout.kindOf b = m'.layout.kindOf b')
    (inside : m'.layout.kindOf b' ≠ .absolute) :
    (siteOf ps k m).place (m.layout.kindOf b) b <
      (siteOf ps k' m').place (m'.layout.kindOf b') b' := by
  obtain ⟨code, data⟩ := extent_take_le_take hk earlier
  rw [kinds]
  cases t : m'.layout.kindOf b' with
  | code =>
      have low := Layout.kindOf_eq_code_iff.mp (kinds.trans t)
      have high := Layout.kindOf_eq_code_iff.mp t
      simp only [Site.place, siteOf]
      omega
  | data =>
      have low := Layout.kindOf_eq_data_iff.mp (kinds.trans t)
      have high := Layout.kindOf_eq_data_iff.mp t
      simp only [Site.place, siteOf]
      omega
  | absolute => exact absurd t inside
  | unresolved => exact absurd t Layout.kindOf_ne_unresolved

/-- **No two addresses inside units are placed at one.** -/
theorem place_inj (hk : ps[k]? = some m) (hk' : ps[k']? = some m')
    (inside : m.layout.kindOf b ≠ .absolute) (inside' : m'.layout.kindOf b' ≠ .absolute)
    (same : (siteOf ps k m).place (m.layout.kindOf b) b =
      (siteOf ps k' m').place (m'.layout.kindOf b') b') : k = k' ∧ b = b' := by
  have kinds : m.layout.kindOf b = m'.layout.kindOf b' := by
    rw [← kindOf_place hk inside, same, kindOf_place hk' inside']
  rcases Nat.lt_trichotomy k k' with earlier | rfl | later
  · exact absurd same (Int.ne_of_lt (place_lt_place hk earlier kinds inside'))
  · -- one unit, where places of one kind are in the order of the addresses
    obtain rfl : m = m' := Option.some.inj (hk.symm.trans hk')
    rw [kinds] at same
    exact ⟨rfl, Site.place_injective _ _ same⟩
  · exact absurd same.symm (Int.ne_of_lt (place_lt_place hk' later kinds.symm inside))

end Program

end BootLink
