/-
# `BootLink.Proofs.Link.Order` — the order of the libraries only changes places

Take a primary and its libraries, and the same libraries in another order.  The two links succeed
together, and where they do, one program is the other with its addresses rearranged: there is a
bijection `π` of the addresses such that every label of code or data has moved by `π`, and

    what stands at π a   is   what stands at a, with π applied to its rebased operands.

`Rearrangement` lists all of it, and `link_reorder_libraries` is the theorem.

The bijection comes from `Linked.content?_place` read twice.  An address of the whole is the place
of one address of one unit (`exists_place`, `place_inj`); that unit stands somewhere else in the
other row, and the same address of it has a place there.  `Moved` is this relation between places,
and it is a bijection because being a place of the same thing can be read in both directions.
Nothing is said about single merges, and nothing about two neighbours changing places.

Two things are asked of the units.  A tag that says code or data must stand on an address that is
in the code or the data of its unit: `π` is known inside the units and cannot follow an address
that is off by one.  And no unit may tag a name that another one defines, which is what makes the
kind of a label the same in both orders (`foreign_tag_reclassifies`).
-/
import BootLink.Proofs.Link.Faults
import BootLink.Proofs.Link.Homes
import Mathlib.Data.Set.Function
import Mathlib.Logic.Equiv.Basic

namespace BootLink

/-! ## Positions in a permuted list -/

/-- A permutation of positions, moved up behind a first position that stays. -/
def behindFirst (σ : Equiv.Perm ℕ) : Equiv.Perm ℕ where
  toFun
    | 0 => 0
    | k + 1 => σ k + 1
  invFun
    | 0 => 0
    | k + 1 => σ.symm k + 1
  left_inv
    | 0 => rfl
    | k + 1 => congrArg Nat.succ (σ.symm_apply_apply k)
  right_inv
    | 0 => rfl
    | k + 1 => congrArg Nat.succ (σ.apply_symm_apply k)

theorem getElem?_behindFirst {α : Type} {σ : Equiv.Perm ℕ} {xs ys : List α}
    (h : ∀ k, ys[σ k]? = xs[k]?) (x : α) :
    ∀ k, (x :: ys)[behindFirst σ k]? = (x :: xs)[k]?
  | 0 => rfl
  | k + 1 => h k

theorem exists_positions {α : Type} {xs ys : List α} (perm : xs.Perm ys) :
    ∃ σ : Equiv.Perm ℕ, ∀ k, ys[σ k]? = xs[k]? := by
  induction perm with
  | nil => exact ⟨Equiv.refl ℕ, fun _ => rfl⟩
  | cons x _ ih =>
      obtain ⟨σ, h⟩ := ih
      exact ⟨behindFirst σ, getElem?_behindFirst h x⟩
  | swap x y zs =>
      refine ⟨Equiv.swap 0 1, fun k => ?_⟩
      match k with
      | 0 => rfl
      | 1 => rfl
      | k + 2 => rw [Equiv.swap_apply_of_ne_of_ne (by omega) (by omega)]; rfl
  | trans _ _ ih ih' =>
      obtain ⟨σ, h⟩ := ih
      obtain ⟨τ, h'⟩ := ih'
      exact ⟨σ.trans τ, fun k => (h' (σ k)).trans (h k)⟩

namespace Program

/-! ## Reordered units -/

theorem extent_perm {ps ps' : List Program} (perm : ps.Perm ps') : extent ps' = extent ps := by
  induction perm with
  | nil => rfl
  | cons p _ ih => rw [extent, extent, ih]
  | swap p p' ps =>
      rw [extent, extent, extent, extent, ← Layout.add_assoc, ← Layout.add_assoc,
        p.layout.add_comm]
  | trans _ _ ih ih' => rw [ih', ih]

/-- `ps'` has the units of `ps`, the one at index `k` at `σ k`. -/
structure Reordered (σ : Equiv.Perm ℕ) (ps ps' : List Program) : Prop where
  perm : ps.Perm ps'
  unit : ∀ k, ps'[σ k]? = ps[k]?

theorem Reordered.symm {σ : Equiv.Perm ℕ} {ps ps' : List Program} (h : Reordered σ ps ps') :
    Reordered σ.symm ps' ps where
  perm := h.perm.symm
  unit k := by rw [← h.unit, σ.apply_symm_apply]

theorem Reordered.extent {σ : Equiv.Perm ℕ} {ps ps' : List Program} (h : Reordered σ ps ps') :
    extent ps' = extent ps := extent_perm h.perm

theorem exists_reordered {P : Program} {libs libs' : List Program} (perm : libs.Perm libs') :
    ∃ σ : Equiv.Perm ℕ, σ 0 = 0 ∧ Reordered σ (P :: libs) (P :: libs') := by
  obtain ⟨σ, h⟩ := exists_positions perm
  exact ⟨behindFirst σ, rfl, perm.cons P, getElem?_behindFirst h P⟩

theorem Linkable.perm {P : Program} {libs libs' : List Program} (perm : libs.Perm libs')
    (h : Linkable (P :: libs)) : Linkable (P :: libs') where
  nonempty := List.cons_ne_nil _ _
  plain m hm := h.plain m (perm.mem_iff.mpr hm)
  apart := ((perm.cons P).pairwise_iff List.disjoint_symm).mp h.apart

end Program

/-! ## The same address of the same unit -/

/-- The addresses of a program of these sizes. -/
def Layout.addresses (l : Layout) : Set Int := {a | 0 ≤ a ∧ a < l.size}

theorem Layout.mem_addresses_iff {l : Layout} {a : Int} :
    a ∈ l.addresses ↔ l.kindOf a ≠ .absolute :=
  kindOf_ne_absolute_iff.symm

namespace Program

section Moving
variable {σ : Equiv.Perm ℕ} {ps ps' : List Program} {a a' b' : Int}

/-- `a` and `a'` are the places, in `ps` and in `ps'`, of one address inside one unit. -/
def Moved (σ : Equiv.Perm ℕ) (ps ps' : List Program) (a a' : Int) : Prop :=
  ∃ k m b, ps[k]? = some m ∧ m.layout.kindOf b ≠ .absolute ∧
    a = (siteOf ps k m).place (m.layout.kindOf b) b ∧
    a' = (siteOf ps' (σ k) m).place (m.layout.kindOf b) b

theorem exists_moved (inside : (extent ps).kindOf a ≠ .absolute) : ∃ a', Moved σ ps ps' a a' := by
  obtain ⟨k, m, b, hk, hb, ha⟩ := exists_place inside
  exact ⟨_, k, m, b, hk, hb, ha, rfl⟩

theorem Moved.functional (h : Moved σ ps ps' a a') (h' : Moved σ ps ps' a b') : a' = b' := by
  obtain ⟨k, m, b, hk, hb, rfl, rfl⟩ := h
  obtain ⟨k', m', c, hk', hc, same, rfl⟩ := h'
  obtain ⟨rfl, rfl⟩ := place_inj hk hk' hb hc same
  obtain rfl : m = m' := Option.some.inj (hk.symm.trans hk')
  rfl

theorem Moved.symm (order : Reordered σ ps ps') (h : Moved σ ps ps' a a') :
    Moved σ.symm ps' ps a' a := by
  obtain ⟨k, m, b, hk, hb, ha, ha'⟩ := h
  refine ⟨σ k, m, b, (order.unit k).trans hk, hb, ha', ?_⟩
  rw [σ.symm_apply_apply]
  exact ha

theorem Moved.kindOf_eq (order : Reordered σ ps ps') (h : Moved σ ps ps' a a') :
    (extent ps').kindOf a' = (extent ps).kindOf a ∧ (extent ps).kindOf a ≠ .absolute := by
  obtain ⟨k, m, b, hk, hb, rfl, rfl⟩ := h
  rw [kindOf_place hk hb, kindOf_place ((order.unit k).trans hk) hb]
  exact ⟨rfl, hb⟩

/-- Moving is a function of the address; what it does outside does not matter. -/
theorem exists_moving (σ : Equiv.Perm ℕ) (ps ps' : List Program) :
    ∃ π : Int → Int, ∀ a a', Moved σ ps ps' a a' → π a = a' := by
  have each (a : Int) : ∃ b, ∀ a', Moved σ ps ps' a a' → b = a' := by
    by_cases h : ∃ a', Moved σ ps ps' a a'
    · obtain ⟨b, hb⟩ := h
      exact ⟨b, fun a' h' => hb.functional h'⟩
    · exact ⟨a, fun a' h' => absurd ⟨a', h'⟩ h⟩
  choose π moves using each
  exact ⟨π, moves⟩

/-- **Moving is a bijection**, and keeps code apart from data. -/
theorem bijOn_of_moves (order : Reordered σ ps ps') {π : Int → Int}
    (moves : ∀ a a', Moved σ ps ps' a a' → π a = a') :
    Set.BijOn π (extent ps).addresses (extent ps).addresses ∧
      ∀ a ∈ (extent ps).addresses, (extent ps).kindOf (π a) = (extent ps).kindOf a := by
  have moved (a : Int) (ha : a ∈ (extent ps).addresses) : Moved σ ps ps' a (π a) := by
    obtain ⟨a', h⟩ := exists_moved (Layout.mem_addresses_iff.mp ha)
    rwa [moves a a' h]
  have kinds (a : Int) (ha : a ∈ (extent ps).addresses) :
      (extent ps).kindOf (π a) = (extent ps).kindOf a := by
    have same := ((moved a ha).kindOf_eq order).1
    rwa [order.extent] at same
  refine ⟨⟨?mapsTo, ?injOn, ?surjOn⟩, kinds⟩
  case mapsTo =>
    intro a ha
    rw [Layout.mem_addresses_iff] at ha ⊢
    rwa [kinds a (Layout.mem_addresses_iff.mpr ha)]
  case injOn =>
    -- one address of the second row has moved back to both
    intro a ha b hb same
    have back := (moved a ha).symm order
    rw [same] at back
    exact back.functional ((moved b hb).symm order)
  case surjOn =>
    intro a' ha'
    rw [Layout.mem_addresses_iff, ← order.extent] at ha'
    obtain ⟨a, back⟩ : ∃ a, Moved σ.symm ps' ps a' a := exists_moved ha'
    have forth := back.symm order.symm
    exact ⟨a, Layout.mem_addresses_iff.mpr (forth.kindOf_eq order).2, moves a a' forth⟩

end Moving

end Program

/-! ## Operands that are rebased -/

/-- The operands of a unit that a link rebases: a resolved address that is tagged as code or
data, or is untagged, where control goes, and in the code of the unit. -/
def Operand.IsRebased (own : Layout) (isTarget : Bool) (o : Operand) : Prop :=
  ∃ v, o.target? = some v ∧
    (o.tag = some .code ∨ o.tag = some .data ∨
      o.tag = none ∧ isTarget = true ∧ own.isCode v = true)

/-- An address that is meant as code or data is in the code or in the data. -/
def Layout.Fits (l : Layout) (t : AddressKind) (a : Int) : Prop :=
  t = .code ∨ t = .data → l.kindOf a = t

instance (l : Layout) (t : AddressKind) (a : Int) : Decidable (l.Fits t a) :=
  inferInstanceAs (Decidable (_ → _))

/-- The tags of a unit that say code or data stand on addresses in its code or data. -/
structure Program.TagsInside (m : Program) : Prop where
  labels : ∀ x ∈ m.labels.entries, ∀ t ∈ m.tags.get? x.1, m.layout.Fits t x.2
  operands : ∀ i ∈ m.instructions, ∀ o ∈ i.operands, ∀ v ∈ o.target?, ∀ t ∈ o.tag,
    m.layout.Fits t v

theorem Operand.IsRebased.refersInto {own : Layout} {isTarget : Bool} {o : Operand}
    (h : o.IsRebased own isTarget) (fits : ∀ v ∈ o.target?, ∀ t ∈ o.tag, own.Fits t v) :
    ∃ v, o.RefersInto own isTarget v := by
  obtain ⟨v, target, code | data | ⟨untagged, jump, inside⟩⟩ := h
  · have part := fits v target .code code (Or.inl rfl)
    exact ⟨v, target, Or.inl ⟨Or.inl code, Layout.kindOf_eq_code_iff.mp part⟩⟩
  · have part := fits v target .data data (Or.inr rfl)
    exact ⟨v, target, Or.inr ⟨data, Layout.kindOf_eq_data_iff.mp part⟩⟩
  · exact ⟨v, target, Or.inl ⟨Or.inr ⟨untagged, jump⟩, Layout.isCode_iff.mp inside⟩⟩

/-- An operand that is not rebased stays as it is at every site. -/
theorem Site.operand_of_not_rebased (s : Site) {isTarget : Bool} {o : Operand}
    (h : ¬ o.IsRebased s.own isTarget) : s.operand isTarget o = o := by
  rw [operand_eq_moveTarget]
  cases target : o.target? with
  | none => exact Operand.moveTarget_of_no_target target _
  | some v =>
      have stays : s.place (s.kindOf isTarget o.tag v) v = v := by
        cases tag : o.tag with
        | none =>
            -- untagged, and no jump into the unit: absolute
            have implied : ¬ (isTarget = true ∧ 0 ≤ v ∧ v < s.own.code) := fun ⟨jump, inside⟩ =>
              h ⟨v, target, Or.inr (Or.inr ⟨tag, jump, Layout.isCode_iff.mpr inside⟩)⟩
            rw [kindOf, Option.getD_none, Layout.impliedKind_eq, if_neg implied]
            rfl
        | some t =>
            cases t with
            | code => exact absurd ⟨v, target, Or.inl tag⟩ h
            | data => exact absurd ⟨v, target, Or.inr (Or.inl tag)⟩ h
            | absolute | unresolved => rfl
      rw [Operand.moveTarget_of_target target, stays, ← (Operand.target?_eq_some_iff.mp target).2.2]

/-! ## Copies in two programs -/

/-- Two copies of an operand: where it is rebased, the second is the first with its address
mapped, and else they are the same. -/
structure Operand.Carried (π : Int → Int) (rebased : Prop) (o o' : Operand) : Prop where
  mapped : rebased → ∃ v, o.target? = some v ∧ o' = { o with value := .number (π v) }
  same : ¬ rebased → o' = o

/-- Two copies of the instruction `home` of a unit with the sizes `own`. -/
structure Instruction.Carried (π : Int → Int) (own : Layout) (home i i' : Instruction) : Prop where
  opcode : i.opcode = home.opcode ∧ i'.opcode = home.opcode
  count : i.operands.length = home.operands.length ∧ i'.operands.length = home.operands.length
  operand : ∀ (x : ℕ) h, home.operands[x]? = some h →
    ∃ o o', i.operands[x]? = some o ∧ i'.operands[x]? = some o' ∧
      Operand.Carried π (h.IsRebased own (home.opcode.isControlTransfer && x == 0)) o o'

section Carrying
variable {π : Int → Int} {s s' : Site}
  (own : s'.own = s.own)
  (carries : ∀ b, s.own.kindOf b ≠ .absolute →
    π (s.place (s.own.kindOf b) b) = s'.place (s.own.kindOf b) b)
include own carries

theorem Operand.carried_of_sites {isTarget : Bool} {o : Operand}
    (fits : ∀ v ∈ o.target?, ∀ t ∈ o.tag, s.own.Fits t v) :
    Operand.Carried π (o.IsRebased s.own isTarget) (s.operand isTarget o)
      (s'.operand isTarget o) := by
  constructor
  · intro rebased
    obtain ⟨v, refers⟩ := rebased.refersInto fits
    obtain ⟨inside, first⟩ := s.target?_of_refersInto refers
    obtain ⟨_, second⟩ := s'.target?_of_refersInto (own.symm ▸ refers)
    refine ⟨_, first, ?_⟩
    -- the two differ in the value alone, and the second value is the place that `π` gives
    have value := (target?_eq_some_iff.mp second).2.2
    rw [own, ← carries v inside] at value
    rw [← value]
    rfl
  · intro fixed
    rw [s.operand_of_not_rebased fixed, s'.operand_of_not_rebased (own.symm ▸ fixed)]

theorem Instruction.carried_of_sites {home : Instruction}
    (fits : ∀ o ∈ home.operands, ∀ v ∈ o.target?, ∀ t ∈ o.tag, s.own.Fits t v) :
    Instruction.Carried π s.own home (s.instruction home) (s'.instruction home) where
  opcode := ⟨rfl, rfl⟩
  count := by simp [Site.instruction]
  operand x h hx := by
    refine ⟨_, _, by simp [Site.instruction, hx]; rfl, by simp [Site.instruction, hx]; rfl, ?_⟩
    exact Operand.carried_of_sites own carries (fits h (List.mem_of_getElem? hx))

end Carrying

/-! ## Two orders -/

namespace Program

/-- `q'` is `q`, a link of the units `ps`, with its addresses rearranged by `π`. -/
structure Rearrangement (ps : List Program) (q q' : Program) (π : Int → Int) : Prop where
  layout : q'.layout = q.layout
  bijective : Set.BijOn π q.layout.addresses q.layout.addresses
  kind : ∀ a ∈ q.layout.addresses, q.layout.kindOf (π a) = q.layout.kindOf a
  names : q'.labels.keys.Perm q.labels.keys
  /-- Labels of code and data move, by what their unit says or the whole: the two agree. -/
  label : ∀ n b t, q.labels.get? n = some b → q.classifyLabel? n = some t →
    (∃ m ∈ ps, n ∈ m.labels.keys ∧ m.classifyLabel? n = some t) ∧
      q'.labels.get? n = some (if t = .code ∨ t = .data then π b else b)
  /-- Two copies of one instruction.  Which of its operands are rebased is a matter of the unit
  that it comes from, the one with the block of code around `a`. -/
  instruction : ∀ a i, q.content? a = some (.instruction i) →
    ∃ k m j home i', ps[k]? = some m ∧ m.instructions[j]? = some home ∧
      a = (extent (ps.take k)).code + (j : Nat) ∧
      q'.content? (π a) = some (.instruction i') ∧ Instruction.Carried π m.layout home i i'
  datum : ∀ a d, q.content? a = some (.datum d) →
    ∃ d', q'.content? (π a) = some (.datum d') ∧ d'.value = d.value

theorem kindOf_of_content {p : Program} {a : Int} {c : Content} (h : p.content? a = some c) :
    p.layout.kindOf a ≠ .absolute := by
  intro outside
  rw [content?, outside] at h
  cases h

theorem content?_eq_instruction_iff {p : Program} {a : Int} {i : Instruction} :
    p.content? a = some (.instruction i) ↔
      p.layout.kindOf a = .code ∧ p.instructions[a.toNat]? = some i := by
  unfold content?
  cases p.layout.kindOf a <;> simp

theorem TagsInside.kindOf_label {m : Program} (h : m.TagsInside) {n : String} {a : Int}
    (ha : m.labels.get? n = some a) (moves : m.kindOf n a = .code ∨ m.kindOf n a = .data) :
    m.layout.kindOf a = m.kindOf n a := by
  cases tag : m.tags.get? n with
  | none => exact (kindOf_of_untagged tag a).symm
  | some t =>
      rw [kindOf_of_tag tag] at moves ⊢
      exact h.labels (n, a) (Table.get?_eq_some_iff.mp ha) t tag moves

/-- No unit tags a name that another one defines. -/
def TagsApart (ps : List Program) : Prop :=
  ∀ m ∈ ps, ∀ m' ∈ ps, m' ≠ m → ∀ n ∈ m.labels.keys, m'.tags.get? n = none

instance (ps : List Program) : Decidable (TagsApart ps) :=
  inferInstanceAs (Decidable (∀ m ∈ ps, _))

theorem TagsApart.perm {ps ps' : List Program} (perm : ps.Perm ps') (h : TagsApart ps) :
    TagsApart ps' :=
  fun m hm m' hm' => h m (perm.mem_iff.mpr hm) m' (perm.mem_iff.mpr hm')

/-- Where the units link, a unit that is there twice defines nothing, and so the positions of a
list can stand for its units. -/
theorem Linkable.taggedOnlyAt {ps : List Program} (h : Linkable ps) (own : TagsApart ps) {k : Nat}
    {m : Program} {n : String} (hk : ps[k]? = some m) (hn : n ∈ m.labels.keys) :
    TaggedOnlyAt ps k n := by
  intro j m' hj hm'
  refine own m (List.mem_of_getElem? hk) m' (List.mem_of_getElem? hm') ?_ n hn
  rintro rfl
  exact hj (h.index_unique hm' hk hn hn)

section Reordering
variable {σ : Equiv.Perm ℕ} {ps ps' : List Program} {q q' : Program} {π : Int → Int}
  (hq : Linked ps q) (hq' : Linked ps' q') (order : Reordered σ ps ps')
  (moves : ∀ a a', Moved σ ps ps' a a' → π a = a')
include hq hq' order moves

/-- What stands at an address, and at the address that it moves to, are copies of one thing. -/
theorem Linked.content?_moved {a : Int} {c : Content} (ha : q.content? a = some c) :
    ∃ k m b home, ps[k]? = some m ∧ m.content? b = some home ∧
      a = (siteOf ps k m).place (m.layout.kindOf b) b ∧
      c = (siteOf ps k m).content home ∧
      q'.content? (π a) = some ((siteOf ps' (σ k) m).content home) := by
  have inside := kindOf_of_content ha
  rw [hq.layout_eq] at inside
  obtain ⟨k, m, b, hk, hb, rfl⟩ := exists_place inside
  obtain ⟨home, here, there⟩ := hq.content?_place hk hb
  -- the unit has the same thing there, wherever it stands itself
  obtain ⟨home', here', there'⟩ := hq'.content?_place ((order.unit k).trans hk) hb
  obtain rfl : home = home' := Option.some.inj (here.symm.trans here')
  refine ⟨k, m, b, home, hk, here, rfl, Option.some.inj (ha.symm.trans there), ?_⟩
  rwa [moves _ _ ⟨k, m, b, hk, hb, rfl, rfl⟩]

theorem Linked.label_moved (inside : ∀ m ∈ ps, m.TagsInside) (own : TagsApart ps)
    {n : String} {b : Int} {t : AddressKind} (hb : q.labels.get? n = some b)
    (ht : q.classifyLabel? n = some t) :
    (∃ m ∈ ps, n ∈ m.labels.keys ∧ m.classifyLabel? n = some t) ∧
      q'.labels.get? n = some (if t = .code ∨ t = .data then π b else b) := by
  obtain ⟨m, hm, hn⟩ := hq.mem_keys_iff.mp (Table.mem_keys_iff.mpr ⟨b, hb⟩)
  obtain ⟨k, hk⟩ := List.getElem?_of_mem hm
  obtain ⟨a, ha⟩ := Table.mem_keys_iff.mp hn
  have hk' : ps'[σ k]? = some m := (order.unit k).trans hk
  have settled := hq.settled hk ha (hq.linkable.taggedOnlyAt own hk hn)
  have settled' := hq'.settled hk' ha (hq'.linkable.taggedOnlyAt (own.perm order.perm) hk' hn)
  obtain rfl : (siteOf ps k m).place (m.kindOf n a) a = b :=
    Option.some.inj (settled.place.symm.trans hb)
  obtain rfl : m.kindOf n a = t := by
    rw [classifyLabel?_of_label hb, settled.kind hq hk] at ht
    exact Option.some.inj ht
  refine ⟨⟨m, hm, hn, classifyLabel?_of_label ha⟩, ?_⟩
  rw [settled'.place]
  split
  · next moving =>
      -- placed by its kind, which is the part of the unit that it lies in: so `π` knows it
      have part := (inside m hm).kindOf_label ha moving
      have notAbsolute : m.layout.kindOf a ≠ .absolute := by
        rw [part]
        rcases moving with e | e <;> rw [e] <;> exact nofun
      rw [← part, moves _ _ ⟨k, m, a, hk, notAbsolute, rfl, rfl⟩]
  · next staying =>
      cases kind : m.kindOf n a with
      | code => exact absurd (Or.inl kind) staying
      | data => exact absurd (Or.inr kind) staying
      | absolute | unresolved => rfl

theorem Linked.rearrangement (inside : ∀ m ∈ ps, m.TagsInside) (own : TagsApart ps) :
    Rearrangement ps q q' π := by
  obtain ⟨bijective, kind⟩ := bijOn_of_moves order moves
  rw [← hq.layout_eq] at bijective kind
  refine ⟨?layout, bijective, kind, ?names, ?label, ?instruction, ?datum⟩
  case layout => rw [hq.layout_eq, hq'.layout_eq, order.extent]
  case names =>
    rw [hq.keys_eq, hq'.keys_eq]
    exact (order.perm.flatMap_right _).symm
  case label =>
    intro n b t hb ht
    exact hq.label_moved hq' order moves inside own hb ht
  case instruction =>
    intro a i ha
    obtain ⟨k, m, b, c, hk, hb, rfl, hc, there⟩ := hq.content?_moved hq' order moves ha
    cases c with
    | datum d => cases hc
    | instruction home =>
        obtain rfl := Content.instruction.inj hc
        obtain ⟨code, hj⟩ := content?_eq_instruction_iff.mp hb
        have tags := (inside m (List.mem_of_getElem? hk)).operands home (List.mem_of_getElem? hj)
        have sizes : (siteOf ps' (σ k) m).own = (siteOf ps k m).own := rfl
        refine ⟨k, m, b.toNat, home, _, hk, hj, ?_, there,
          Instruction.carried_of_sites sizes (fun b hb => ?_) tags⟩
        · have low := (Layout.kindOf_eq_code_iff.mp code).1
          rw [code]
          simp only [Site.place, siteOf]
          omega
        · exact moves _ _ ⟨k, m, b, hk, hb, rfl, rfl⟩
  case datum =>
    intro a d ha
    obtain ⟨k, m, b, c, hk, hb, rfl, hc, there⟩ := hq.content?_moved hq' order moves ha
    cases c with
    | instruction home => cases hc
    | datum home =>
        obtain rfl := Content.datum.inj hc
        exact ⟨_, there, rfl⟩

end Reordering

/-- **The order of the libraries only changes places.**  Linking succeeds for both orders or for
neither, and then one program is the other rearranged, with the primary's code where it was. -/
theorem link_reorder_libraries {P : Program} {libs libs' : List Program} (perm : libs.Perm libs')
    (inside : ∀ m ∈ P :: libs, m.TagsInside) (own : TagsApart (P :: libs)) :
    ((∃ q, link (P :: libs) = .ok q) ↔ ∃ q', link (P :: libs') = .ok q') ∧
      ∀ q q', link (P :: libs) = .ok q → link (P :: libs') = .ok q' →
        ∃ π, Rearrangement (P :: libs) q q' π ∧ ∀ a, P.layout.isCode a = true → π a = a := by
  constructor
  · rw [exists_link_eq_ok_iff, exists_link_eq_ok_iff]
    exact ⟨Linkable.perm perm, Linkable.perm perm.symm⟩
  · intro q q' hq hq'
    have run := link_eq_ok_iff.mp hq
    have run' := link_eq_ok_iff.mp hq'
    obtain ⟨σ, first, order⟩ := exists_reordered perm
    obtain ⟨π, moves⟩ := exists_moving σ (P :: libs) (P :: libs')
    refine ⟨π, run.rearrangement run' order moves inside own, fun a ha => moves a a ?_⟩
    have code : P.layout.kindOf a = .code :=
      Layout.kindOf_eq_code_iff.mpr (Layout.isCode_iff.mp ha)
    refine ⟨0, P, a, rfl, code ▸ nofun, ?_, ?_⟩
    · rw [code]
      exact (Int.add_zero a).symm
    · rw [code, first]
      exact (Int.add_zero a).symm

end Program

/-- A library that jumps to its own first instruction, and has a cell of its own. -/
def Sample.chime : Program where
  instructions := [⟨.jmp, [⟨.label, .number 0, none, none⟩]⟩]
  data := [⟨0, .number 9⟩]
  labels := ⟨[("ring", 0), ("tone", 1)], by decide⟩
  name := "chime"

namespace Program

open Sample

/-- `clock` has its cell at 6 with `chime` behind it, and at 7 behind `chime`; its label moves
along. -/
theorem clock_behind_chime :
    ∃ q q' π, link [greeting, clock, chime] = .ok q ∧ link [greeting, chime, clock] = .ok q' ∧
      Rearrangement [greeting, clock, chime] q q' π ∧ π 1 = 1 ∧
      q.labels.get? "now" = some 6 ∧ π 6 = 7 := by
  have perm : [clock, chime].Perm [chime, clock] := .swap chime clock []
  have inside : ∀ m ∈ [greeting, clock, chime], m.TagsInside := by
    simp only [List.forall_mem_cons, List.not_mem_nil, false_imp_iff, implies_true, and_true]
    exact ⟨⟨by decide, by decide⟩, ⟨by decide, by decide⟩, ⟨by decide, by decide⟩⟩
  have own : TagsApart [greeting, clock, chime] := by decide
  have pair : Linked [greeting, clock] (greeting.asLinked.combine clock) :=
    (Linked.first greeting).behind (merge_eq_ok_iff.mpr ⟨rfl, by decide, rfl⟩)
  obtain ⟨q, last⟩ := (pair.exists_merge_iff (l := chime)).mpr ⟨rfl, by decide⟩
  have run := pair.behind last
  have hq := link_eq_ok_iff.mpr run
  obtain ⟨together, each⟩ := link_reorder_libraries perm inside own
  obtain ⟨q', hq'⟩ := together.mp ⟨q, hq⟩
  obtain ⟨π, rearranged, fixed⟩ := each q q' hq hq'
  have run' := link_eq_ok_iff.mp hq'
  have settled := run.settled (k := 1) (n := "now") rfl rfl
    (run.linkable.taggedOnlyAt own rfl (by decide))
  have settled' := run'.settled (k := 2) (n := "now") rfl rfl
    (run'.linkable.taggedOnlyAt (own.perm (perm.cons greeting)) rfl (by decide))
  have kind := classifyLabel?_of_label settled.place
  rw [settled.kind run rfl] at kind
  have moved := (rearranged.label "now" 6 .data settled.place kind).2
  exact ⟨q, q', π, hq, hq', rearranged, fixed 1 (by decide), settled.place,
    Option.some.inj (moved.symm.trans settled'.place)⟩

end Program

end BootLink
