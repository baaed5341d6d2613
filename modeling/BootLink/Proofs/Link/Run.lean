/-
# `BootLink.Proofs.Link.Run` — a whole link, and where its units lie in it

`link` folds `merge` over a list from the left.  `Linked ps q` is the same thing as a relation that
grows at the right end, one merge at a time, and `link_eq_ok_iff` says that it is the same thing.
Every statement about a whole link is an induction on it: what the first unit gives alone, and
what one more merge does to what is there.

The second half says where a unit lies.  For units `ps`, the unit `m` at index `k`:

    extent ps              the sizes of all of them together
    extent (ps.take k)     the sizes of those before it
    siteOf ps k m          its own sizes, those before it, and those of the whole

and `Site.place` moves an address of the unit there in one step, by its kind:

    code        a + (code before)
    data        a - (own code) + (code of the whole) + (data before)
    otherwise   a

No merge computes this.  A merge moves data by the code that it adds, once for every unit that
comes later, and these steps add up to the difference of the two code sizes.
-/
import BootLink.Proofs.Link.Merge

namespace BootLink

namespace Program

/-! ## A single unit -/

section Single
variable (p : Program)

@[simp] theorem instructions_asLinked : p.asLinked.instructions = p.instructions := by
  unfold asLinked; split <;> rfl

@[simp] theorem data_asLinked : p.asLinked.data = p.data := by
  unfold asLinked; split <;> rfl

@[simp] theorem labels_asLinked : p.asLinked.labels = p.labels := by
  unfold asLinked; split <;> rfl

@[simp] theorem tags_asLinked : p.asLinked.tags = p.tags := by
  unfold asLinked; split <;> rfl

@[simp] theorem layout_asLinked : p.asLinked.layout = p.layout := by
  simp [layout]

/-- Whether the primary is marked as linked before or by the merge makes no difference. -/
theorem merge_asLinked (l : Program) : merge p.asLinked l = merge p l := by
  unfold asLinked
  split
  · next home =>
      have sources : mergedSources { p with origin := .linked [p.name] } l = mergedSources p l := by
        simp only [mergedSources, home]
        rfl
      unfold merge combine
      rw [sources]
      rfl
  · rfl

end Single

/-! ## Links as a relation -/

/-- `Linked ps q`: the units `ps`, linked in their order, give `q`. -/
inductive Linked : List Program → Program → Prop
  | first (p : Program) : Linked [p] p.asLinked
  | behind {ps : List Program} {q l r : Program} :
      Linked ps q → merge q l = .ok r → Linked (ps ++ [l]) r

theorem Linked.ne_nil {ps : List Program} {q : Program} (h : Linked ps q) : ps ≠ [] := by
  cases h with
  | first p => exact List.cons_ne_nil _ _
  | behind _ _ => exact List.append_ne_nil_of_right_ne_nil _ (List.cons_ne_nil _ _)

/-- More units behind a link are merged into it one after the other. -/
theorem link_append {ps : List Program} (h : ps ≠ []) (ls : List Program) :
    link (ps ++ ls) = (link ps).bind fun q => ls.foldlM merge q := by
  cases ps with
  | nil => exact absurd rfl h
  | cons p rest => exact List.foldlM_append

theorem linked_of_foldlM {r : Program} :
    ∀ {ls ps : List Program} {q : Program}, Linked ps q → ls.foldlM merge q = .ok r →
      Linked (ps ++ ls) r
  | [], ps, q, hq, hr => by
      obtain rfl : q = r := Except.ok.inj hr
      rwa [List.append_nil]
  | l :: ls, ps, q, hq, hr => by
      rw [List.foldlM_cons] at hr
      cases hm : merge q l with
      | error e => rw [hm] at hr; exact nomatch hr
      | ok r' =>
          rw [hm] at hr
          have := linked_of_foldlM (hq.behind hm) hr
          rwa [List.append_assoc] at this

/-- **A link is a run of merges.** -/
theorem link_eq_ok_iff {ps : List Program} {q : Program} : link ps = .ok q ↔ Linked ps q := by
  constructor
  · intro h
    cases ps with
    | nil => exact nomatch h
    | cons p rest => exact linked_of_foldlM (.first p) h
  · intro h
    induction h with
    | first p => rfl
    | behind hq hm ih =>
        rw [link_append hq.ne_nil, ih]
        show [_].foldlM merge _ = _
        rw [List.foldlM_cons, hm]
        rfl

/-! ## Sizes -/

/-- The sizes of several units together. -/
def extent : List Program → Layout
  | [] => ⟨0, 0⟩
  | p :: ps => p.layout + extent ps

theorem extent_singleton (p : Program) : extent [p] = p.layout := p.layout.add_zero

theorem extent_snoc (ps : List Program) (l : Program) :
    extent (ps ++ [l]) = extent ps + l.layout := by
  induction ps with
  | nil => rw [List.nil_append, extent_singleton, extent, Layout.zero_add]
  | cons p ps ih => rw [List.cons_append, extent, extent, ih, Layout.add_assoc]

theorem Linked.layout_eq {ps : List Program} {q : Program} (h : Linked ps q) :
    q.layout = extent ps := by
  induction h with
  | first p => rw [layout_asLinked, extent_singleton]
  | behind _ hm ih => rw [layout_merge hm, ih, extent_snoc]

/-- A unit fits in between what stands before it and the whole. -/
theorem extent_take_le {ps : List Program} {k : Nat} {m : Program} (hk : ps[k]? = some m) :
    (extent (ps.take k)).code + m.layout.code ≤ (extent ps).code ∧
      (extent (ps.take k)).data + m.layout.data ≤ (extent ps).data := by
  induction ps generalizing k with
  | nil => exact nomatch hk
  | cons p ps ih =>
      cases k with
      | zero =>
          obtain rfl : p = m := Option.some.inj hk
          simp [extent]
      | succ k =>
          have := ih (k := k) hk
          simp only [extent, List.take_succ_cons, Layout.code_add, Layout.data_add] at this ⊢
          omega

end Program

/-- The three units of `Sample`, linked. -/
theorem Sample.linked_units :
    Program.Linked [greeting, clock, printer] ((greeting.asLinked.combine clock).combine printer) :=
  ((Program.Linked.first greeting).behind (l := clock)
    (Program.merge_eq_ok_iff.mpr ⟨rfl, by decide, rfl⟩)).behind (merge_printer _)

/-! ## Sites -/

/-- Where a unit of a link lies: its own sizes, the sizes of the units before it, and those of the
whole. -/
structure Site where
  own : Layout
  before : Layout
  whole : Layout
  deriving DecidableEq, Repr

namespace Site

/-- The place in the whole of an address of the unit. -/
def place (s : Site) : AddressKind → Int → Int
  | .code, a => a + s.before.code
  | .data, a => a - s.own.code + s.whole.code + s.before.data
  | .absolute, a => a
  | .unresolved, a => a

/-- The value of an operand in the whole.  `isTarget` tells that control goes there, which makes
an untagged address count as code. -/
def value (s : Site) (isTarget : Bool) (o : Operand) : Value :=
  match o.kind, o.labelName, o.value, o.tag with
  | .label, none, .number v, some k => .number (s.place k v)
  | .label, none, .number v, none =>
      if isTarget = true ∧ 0 ≤ v ∧ v < s.own.code then .number (v + s.before.code)
      else .number v
  | _, _, value, _ => value

/-- An operand in the whole: only its value may differ. -/
def operand (s : Site) (isTarget : Bool) (o : Operand) : Operand :=
  { o with value := s.value isTarget o }

/-- An instruction in the whole: only the values of its operands may differ. -/
def instruction (s : Site) (i : Instruction) : Instruction :=
  { i with operands := i.operands.mapIdx fun j o =>
      s.operand (i.opcode.isControlTransfer && j == 0) o }

/-- A data cell in the whole: its offset counts from the first cell of all. -/
def datum (s : Site) (d : DataItem) : DataItem :=
  { d with address := d.address + s.before.data }

/-- The site after one more unit was put behind the whole. -/
def grow (s : Site) (l : Layout) : Site := { s with whole := s.whole + l }

/-- The site of the library of a merge. -/
def ofLibrary (p : Placement) : Site := ⟨p.library, p.primary, p.primary + p.library⟩

/-- A merge moves what lies at a site, being the primary of it, to the site grown by the
library. -/
theorem primaryAddress_place (s : Site) (p : Placement) (t : AddressKind) (a : Int) :
    p.primaryAddress t (s.place t a) = (s.grow p.library).place t a := by
  cases t with
  | data => simp only [Placement.primaryAddress, place, grow, Layout.code_add]; omega
  | code | absolute | unresolved => rfl

/-- A merge moves the library's addresses to its site. -/
theorem libraryAddress_eq_place (p : Placement) (t : AddressKind) (a : Int) :
    p.libraryAddress t a = (ofLibrary p).place t a := by
  cases t with
  | data =>
      simp only [Placement.libraryAddress, Placement.dataBase, place, ofLibrary,
        Layout.code_add]
      omega
  | code | absolute | unresolved => rfl

end Site

namespace Program

/-- The site of the unit `m` at index `k` of `ps`. -/
def siteOf (ps : List Program) (k : Nat) (m : Program) : Site :=
  ⟨m.layout, extent (ps.take k), extent ps⟩

/-- The units of a link, each with its site. -/
def units (ps : List Program) : List (Site × Program) :=
  ps.zipIdx.map fun x => (siteOf ps x.2 x.1, x.1)

theorem getElem?_units (ps : List Program) (k : Nat) :
    (units ps)[k]? = ps[k]?.map fun m => (siteOf ps k m, m) := by
  simp [units, Function.comp_def]

theorem map_snd_units (ps : List Program) : (units ps).map Prod.snd = ps := by
  simp [units, Function.comp_def]

theorem siteOf_snoc {ps : List Program} {k : Nat} (hk : k < ps.length) (m l : Program) :
    siteOf (ps ++ [l]) k m = (siteOf ps k m).grow l.layout := by
  rw [siteOf, List.take_append_of_le_length (Nat.le_of_lt hk), extent_snoc]
  rfl

theorem siteOf_last {ps : List Program} {q : Program} (h : Linked ps q) (l : Program) :
    siteOf (ps ++ [l]) ps.length l = .ofLibrary (placement q l) := by
  rw [siteOf, List.take_left, extent_snoc, ← h.layout_eq]
  rfl

/-- One more unit: the others keep their place in the row, and their sites grow. -/
theorem units_snoc {ps : List Program} {q : Program} (h : Linked ps q) (l : Program) :
    units (ps ++ [l]) =
      (units ps).map (fun u => (u.1.grow l.layout, u.2)) ++
        [(.ofLibrary (placement q l), l)] := by
  have others : ps.zipIdx.map (fun x => (siteOf (ps ++ [l]) x.2 x.1, x.1)) =
      (units ps).map (fun u => (u.1.grow l.layout, u.2)) := by
    rw [units, List.map_map]
    refine List.map_congr_left fun x hx => ?_
    obtain ⟨hk, _⟩ := List.mem_zipIdx' hx
    simp only [Function.comp_apply, siteOf_snoc hk]
  rw [units, List.zipIdx_append, List.map_append, others]
  simp only [Nat.zero_add, List.zipIdx_cons, List.zipIdx_nil, List.map_cons, List.map_nil,
    siteOf_last h]

/-- The first unit, alone, lies where it was. -/
theorem siteOf_first (p : Program) : siteOf [p] 0 p = ⟨p.layout, ⟨0, 0⟩, p.layout⟩ := by
  rw [siteOf, extent_singleton]
  rfl

theorem place_first (p : Program) (t : AddressKind) (a : Int) :
    (siteOf [p] 0 p).place t a = a := by
  rw [siteOf_first]
  cases t with
  | code | data => simp only [Site.place]; omega
  | absolute | unresolved => rfl

/-- An address inside its unit stays of its kind in the whole: the four ranges of a unit and of
the whole lie as they should. -/
theorem kindOf_place {ps : List Program} {k : Nat} {m : Program} (hk : ps[k]? = some m) {a : Int}
    (inside : m.layout.kindOf a ≠ .absolute) :
    (extent ps).kindOf ((siteOf ps k m).place (m.layout.kindOf a) a) = m.layout.kindOf a := by
  obtain ⟨fitsCode, fitsData⟩ := extent_take_le hk
  cases t : m.layout.kindOf a with
  | code =>
      rw [Layout.kindOf_eq_code_iff] at t ⊢
      simp only [Site.place, siteOf]
      omega
  | data =>
      rw [Layout.kindOf_eq_data_iff] at t ⊢
      simp only [Site.place, siteOf]
      omega
  | absolute => exact absurd t inside
  | unresolved => exact absurd t Layout.kindOf_ne_unresolved

end Program

end BootLink
