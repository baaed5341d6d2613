/-
# `BootLink.Proofs.Link.Labels` — labels of a whole link

For units `ps` that link to `q`, a label `n` of the unit `m` at index `k`, with the address `a`
there:

    q.labels.get? n = some ((siteOf ps k m).place (m.kindOf n a) a)
    q.tags.get? n   = m.settledTag n a ps.length

provided that no other unit tags `n`.  The kind on the right is the one that `m` gives the label
at home, and it is looked up once.  The program looks it up again at every merge, in a program
that has grown since: an untagged label is judged by its place, and the place has moved.

`Settled` is what carries the label through.  An address inside its unit stays inside the same
part of the whole (`kindOf_place`), and one outside is pinned by the first merge that sees it,
before any range can grow over it.  The two halves of `Settled` need each other: the tag says how
the next merge judges the label, and with the kind known, the next merge says what becomes of the
tag.

The proviso is needed, as `foreign_tag_reclassifies` shows.
-/
import BootLink.Proofs.Link.Code
import BootLink.Proofs.Link.Kinds

namespace BootLink

namespace Program

/-! ## Names -/

theorem Linked.keys_eq {ps : List Program} {q : Program} (h : Linked ps q) :
    q.labels.keys = ps.flatMap fun m => m.labels.keys := by
  induction h with
  | first p => simp
  | behind _ hm ih =>
      rw [keys_labels_merge hm, ih, List.flatMap_append, List.flatMap_singleton]

theorem Linked.get?_labels_eq_none {ps : List Program} {q : Program} (h : Linked ps q)
    {n : String} : q.labels.get? n = none ↔ ∀ m ∈ ps, m.labels.get? n = none := by
  simp only [Table.get?_eq_none_iff, h.keys_eq, List.mem_flatMap, not_exists, not_and]

/-- Tags do not come from nowhere. -/
theorem Linked.get?_tags_eq_none {ps : List Program} {q : Program} (h : Linked ps q) {n : String}
    (untagged : ∀ m ∈ ps, m.tags.get? n = none) (undefined : ∀ m ∈ ps, m.labels.get? n = none) :
    q.tags.get? n = none := by
  induction h with
  | first p => simpa using untagged p
  | @behind ps q l r hq hm ih =>
      have earlier : ∀ m ∈ ps, m ∈ ps ++ [l] := fun m hm => List.mem_append_left _ hm
      have last : l ∈ ps ++ [l] := List.mem_append_right _ (List.mem_singleton_self l)
      have hp := hq.get?_labels_eq_none.mpr fun m hm => undefined m (earlier m hm)
      rw [get?_tags_merge_undefined hm hp (undefined l last), untagged l last, Option.none_or]
      exact ih (fun m hm => untagged m (earlier m hm)) (fun m hm => undefined m (earlier m hm))

/-! ## The invariant -/

/-- The tag of a label once `count` units are linked: its own, and else that of a fixed address if
it lies outside its unit and there was a merge. -/
def settledTag (m : Program) (n : String) (a : Int) (count : Nat) : Option AddressKind :=
  (m.tags.get? n).or
    (if (a < 0 ∨ m.layout.code + m.layout.data ≤ a) ∧ 2 ≤ count then some .absolute else none)

/-- The label `n` of the unit `m` at index `k` is where it belongs in `q`, and tagged as it
should be. -/
structure Settled (ps : List Program) (k : Nat) (m : Program) (n : String) (a : Int)
    (q : Program) : Prop where
  place : q.labels.get? n = some ((siteOf ps k m).place (m.kindOf n a) a)
  tag : q.tags.get? n = m.settledTag n a ps.length

variable {ps : List Program} {q l r m : Program} {k : Nat} {n : String} {a : Int}

theorem settledTag_of_tag {t : AddressKind} (h : m.tags.get? n = some t) (count : Nat) :
    m.settledTag n a count = some t := by
  rw [settledTag, h, Option.some_or]

theorem settledTag_of_inside (h : m.tags.get? n = none) (inside : m.layout.kindOf a ≠ .absolute)
    (count : Nat) : m.settledTag n a count = none := by
  have not_outside : ¬ (a < 0 ∨ (m.layout.code + m.layout.data : Int) ≤ a) :=
    mt Layout.kindOf_eq_absolute_iff.mpr inside
  rw [settledTag, h, Option.none_or, if_neg fun both => not_outside both.1]

theorem settledTag_of_outside (h : m.tags.get? n = none) (outside : m.layout.kindOf a = .absolute)
    {count : Nat} (merged : 2 ≤ count) : m.settledTag n a count = some .absolute := by
  rw [settledTag, h, Option.none_or,
    if_pos ⟨Layout.kindOf_eq_absolute_iff.mp outside, merged⟩]

theorem settledTag_alone (h : m.tags.get? n = none) {count : Nat} (alone : ¬ 2 ≤ count) :
    m.settledTag n a count = none := by
  rw [settledTag, h, Option.none_or, if_neg fun both => alone both.2]

/-- A list with one unit at some index and no second one is that unit. -/
theorem eq_singleton_of_alone (hk : ps[k]? = some m) (alone : ¬ 2 ≤ ps.length) : ps = [m] := by
  obtain ⟨hlt, hm⟩ := List.getElem?_eq_some_iff.mp hk
  obtain ⟨p, rfl⟩ := List.length_eq_one_iff.mp (show ps.length = 1 by omega)
  simp at hm
  rw [hm]

/-- **Judged in the program so far, a settled label has the kind that it has at home.** -/
theorem Settled.kind (h : Settled ps k m n a q) (hq : Linked ps q) (hk : ps[k]? = some m) :
    q.kindOf n ((siteOf ps k m).place (m.kindOf n a) a) = m.kindOf n a := by
  have tag := h.tag
  cases own : m.tags.get? n with
  | some t =>
      rw [settledTag_of_tag own] at tag
      rw [kindOf_of_tag tag, kindOf_of_tag own]
  | none =>
      rw [kindOf_of_untagged own]
      by_cases outside : m.layout.kindOf a = .absolute
      · by_cases merged : 2 ≤ ps.length
        · rw [settledTag_of_outside own outside merged] at tag
          rw [kindOf_of_tag tag, outside]
        · -- nothing was merged yet: the program so far is the unit itself
          rw [settledTag_alone own merged] at tag
          obtain rfl := eq_singleton_of_alone hk merged
          rw [kindOf_of_untagged tag, hq.layout_eq, extent_singleton, outside]
          exact outside
      · rw [settledTag_of_inside own outside] at tag
        rw [kindOf_of_untagged tag, hq.layout_eq]
        exact kindOf_place hk outside

/-! ## One merge more -/

theorem settled_first (h : m.labels.get? n = some a) : Settled [m] 0 m n a m.asLinked where
  place := by rw [place_first, labels_asLinked, h]
  tag := by
    rw [tags_asLinked]
    cases own : m.tags.get? n with
    | some t => exact (settledTag_of_tag own _).symm
    | none => exact (settledTag_alone own (Nat.not_succ_le_self 1)).symm

/-- A merge keeps a settled label settled, if the unit that comes does not tag it. -/
theorem Settled.behind (h : Settled ps k m n a q) (hq : Linked ps q) (hk : ps[k]? = some m)
    (hm : merge q l = .ok r) (untagged : l.tags.get? n = none) :
    Settled (ps ++ [l]) k m n a r := by
  obtain ⟨hlt, _⟩ := List.getElem?_eq_some_iff.mp hk
  have kind := h.kind hq hk
  have merged : 2 ≤ (ps ++ [l]).length := by
    rw [List.length_append]
    exact Nat.add_le_add_right (Nat.lt_of_le_of_lt (Nat.zero_le k) hlt) 1
  constructor
  · rw [get?_labels_merge_primary hm h.place, kind, Site.primaryAddress_place, siteOf_snoc hlt]
    rfl
  · have tag := get?_tags_merge_primary hm h.place
    rw [kind, untagged, Option.none_or, h.tag] at tag
    rw [tag]
    cases own : m.tags.get? n with
    | some t =>
        rw [settledTag_of_tag own, settledTag_of_tag own, kindOf_of_tag own]
        split
        · next fixed => rw [fixed]
        · rfl
    | none =>
        rw [kindOf_of_untagged own]
        by_cases outside : m.layout.kindOf a = .absolute
        · rw [if_pos outside, settledTag_of_outside own outside merged]
        · rw [if_neg outside, settledTag_of_inside own outside, settledTag_of_inside own outside]

/-- The labels of the unit that comes are settled, where the program so far does not tag them. -/
theorem settled_last (hq : Linked ps q) (hm : merge q l = .ok r) (h : l.labels.get? n = some a)
    (untagged : q.tags.get? n = none) : Settled (ps ++ [l]) ps.length l n a r := by
  have merged : 2 ≤ (ps ++ [l]).length := by
    rw [List.length_append]
    exact Nat.add_le_add_right (List.length_pos_iff.mpr hq.ne_nil) 1
  constructor
  · rw [get?_labels_merge_library hm h, Site.libraryAddress_eq_place, siteOf_last hq]
  · have tag := get?_tags_merge_library hm h
    rw [untagged, Option.or_none] at tag
    rw [tag]
    cases own : l.tags.get? n with
    | some t =>
        rw [settledTag_of_tag own, kindOf_of_tag own]
        exact ite_self _
    | none =>
        rw [kindOf_of_untagged own]
        by_cases outside : l.layout.kindOf a = .absolute
        · rw [if_pos (Or.inl outside), outside, settledTag_of_outside own outside merged]
        · rw [settledTag_of_inside own outside,
            if_neg fun e => e.elim outside Layout.kindOf_ne_unresolved]

/-! ## The whole link -/

/-- No unit but the one at index `k` tags `n`. -/
def TaggedOnlyAt (ps : List Program) (k : Nat) (n : String) : Prop :=
  ∀ j m, j ≠ k → ps[j]? = some m → m.tags.get? n = none

theorem TaggedOnlyAt.earlier (h : TaggedOnlyAt (ps ++ [l]) k n) : TaggedOnlyAt ps k n :=
  fun j m hj hm => h j m hj <| by
    rw [List.getElem?_append_left (List.getElem?_eq_some_iff.mp hm).1, hm]

/-- **Every label that no other unit tags is settled in the whole.** -/
theorem Linked.settled (h : Linked ps q) (hk : ps[k]? = some m) (ha : m.labels.get? n = some a)
    (only : TaggedOnlyAt ps k n) : Settled ps k m n a q := by
  induction h with
  | first p =>
      obtain ⟨hlt, rfl⟩ := List.getElem?_eq_some_iff.mp hk
      obtain rfl : k = 0 := Nat.lt_one_iff.mp hlt
      exact settled_first ha
  | @behind ps q l r hq hm ih =>
      by_cases hlt : k < ps.length
      · rw [List.getElem?_append_left hlt] at hk
        have untagged : l.tags.get? n = none :=
          only ps.length l (Nat.ne_of_gt hlt) List.getElem?_concat_length
        exact (ih hk only.earlier).behind hq hk hm untagged
      · obtain ⟨hle, _⟩ := List.getElem?_eq_some_iff.mp hk
        rw [List.length_append, List.length_singleton] at hle
        obtain rfl : k = ps.length := by omega
        obtain rfl : l = m := Option.some.inj (List.getElem?_concat_length.symm.trans hk)
        refine settled_last hq hm ha (hq.get?_tags_eq_none ?_ ?_)
        · intro p hp
          obtain ⟨j, hj⟩ := List.getElem?_of_mem hp
          have hjlt := (List.getElem?_eq_some_iff.mp hj).1
          exact only.earlier j p (Nat.ne_of_lt hjlt) hj
        · exact hq.get?_labels_eq_none.mp (get?_primary_of_library hm ha)

/-- **Labels and data of a whole link.**  The names are those of the units, one after the other.
A label that no other unit tags is placed by the kind that its own unit gives it, and tagged as
its own unit tags it, or else as a fixed address if it is one and anything was merged; so a label
inside its unit denotes, in the whole, the copy of what it denoted there, and a fixed address
stays.  The data cells are those of the units, one after the other, their offsets counted on. -/
theorem link_places_labels (h : link ps = .ok q) :
    q.labels.keys = ps.flatMap (fun m => m.labels.keys) ∧
    q.data = (units ps).flatMap (fun u => u.2.data.map u.1.datum) ∧
    ∀ k m, ps[k]? = some m →
      (∀ i d, m.data[i]? = some d →
        q.data[(extent (ps.take k)).data + i]? =
          some ⟨d.address + (extent (ps.take k)).data, d.value⟩) ∧
      ∀ n a t, m.labels.get? n = some a → m.classifyLabel? n = some t →
        (∀ j m', j ≠ k → ps[j]? = some m' → m'.tags.get? n = none) →
          q.labels.get? n = some ((siteOf ps k m).place t a) ∧
          q.tags.get? n = m.settledTag n a ps.length ∧
          (t = .code ∧ m.layout.isCode a = true ∨ t = .data ∧ m.layout.isData a = true →
            ∃ c, m.content? a = some c ∧
              q.content? ((siteOf ps k m).place t a) = some ((siteOf ps k m).content c)) ∧
          (t = .absolute ∨ t = .unresolved → q.labels.get? n = some a) := by
  have run := link_eq_ok_iff.mp h
  refine ⟨run.keys_eq, run.data_eq, fun k m hk => ⟨?_, ?_⟩⟩
  · intro i d hd
    obtain ⟨hlt, _⟩ := List.getElem?_eq_some_iff.mp hd
    rw [run.getElem?_data hk hlt, hd]
    rfl
  · intro n a t ha ht only
    obtain rfl : m.kindOf n a = t :=
      Option.some.inj ((classifyLabel?_of_label ha).symm.trans ht)
    have settled := run.settled hk ha only
    refine ⟨settled.place, settled.tag, ?_, ?_⟩
    · intro inside
      obtain ⟨part, moves⟩ : m.layout.kindOf a = m.kindOf n a ∧ m.kindOf n a ≠ .absolute := by
        rcases inside with ⟨e, range⟩ | ⟨e, range⟩
        · rw [e, Layout.kindOf_eq_code_iff, ← Layout.isCode_iff]
          exact ⟨range, nofun⟩
        · rw [e, Layout.kindOf_eq_data_iff, ← Layout.isData_iff]
          exact ⟨range, nofun⟩
      rw [← part] at moves ⊢
      exact run.content?_place hk moves
    · intro fixed
      rw [settled.place]
      rcases fixed with e | e <;> rw [e] <;> rfl

/-- The second unit's data label, an address of 2 there, is 6 behind five instructions and one
data cell; no tag is added. -/
theorem clock_label_relocated :
    ∃ q, link [Sample.greeting, Sample.clock, Sample.printer] = .ok q ∧
      q.labels.get? "now" = some 6 ∧ q.tags.get? "now" = none ∧
      q.content? 6 = some (.datum ⟨1, .number 7⟩) := by
  have run := link_eq_ok_iff.mpr Sample.linked_units
  obtain ⟨_, _, each⟩ := link_places_labels run
  obtain ⟨_, labels⟩ := each 1 Sample.clock rfl
  have only : ∀ j m', j ≠ 1 →
      [Sample.greeting, Sample.clock, Sample.printer][j]? = some m' →
        m'.tags.get? "now" = none
    | 0, _, _, e => Option.some.inj e ▸ rfl
    | 2, _, _, e => Option.some.inj e ▸ rfl
    | 1, _, h, _ => absurd rfl h
  obtain ⟨place, tag, inside, _⟩ := labels "now" 2 .data rfl rfl only
  obtain ⟨c, here, there⟩ := inside (Or.inr ⟨rfl, rfl⟩)
  obtain rfl : c = .datum ⟨0, .number 7⟩ := Option.some.inj (here.symm.trans rfl)
  exact ⟨_, run, place, tag, there⟩

end Program

end BootLink
