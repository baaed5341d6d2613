/-
# `BootLink.Proofs.Link.AddressSpace` — untagged labels stay apart and inside

A label without a tag is read by its place.  So it had better lie in the program, and no other
unit's label should lie where it does.  For programs that went through at least one merge,

    merge p l = .ok r,   ls.foldlM merge r = .ok q

this holds whatever the inputs `p :: l :: ls` are: their labels may be out of range or negative,
their tags may be about any names, and `p` may be linked already.  The reason is in two steps.

* Tags are never dropped (`Linked.untagged`), so a label that has none in the end had none in any
  input, and no merge on the way pinned it.  It lay inside its own unit, then, and was moved by its
  place alone.
* The places of a unit's addresses are inside the whole, and two of them meet only where they come
  from one address of one unit (`kindOf_place`, `place_inj`).

One unit alone is another matter: nothing has pinned its labels yet, wherever they lie.
-/
import BootLink.Proofs.Link.Homes
import BootLink.Proofs.Link.Labels

namespace BootLink

namespace Program

variable {ps ls : List Program} {p q l r m : Program} {k : Nat} {n : String} {b : Int}

/-! ## From a merge to a run -/

theorem linked_of_merges (h : merge p l = .ok r) (more : ls.foldlM merge r = .ok q) :
    Linked (p :: l :: ls) q :=
  linked_of_foldlM ((Linked.first p).behind ((merge_asLinked p l).trans h)) more

/-! ## Labels without a tag -/

/-- What has no tag in the whole had none in any unit. -/
theorem Linked.untagged (h : Linked ps q) (hq : q.tags.get? n = none) :
    ∀ m ∈ ps, m.tags.get? n = none := by
  induction h with
  | first p => simpa using hq
  | @behind ps q l r hq' hm ih =>
      have tags := get?_tags_merge hm n
      rw [hq, eq_comm, Option.or_eq_none_iff, Option.or_eq_none_iff, Option.or_eq_none_iff] at tags
      obtain ⟨_, _, library, primary⟩ := tags
      intro m hmem
      rcases List.mem_append.mp hmem with earlier | last
      · exact ih primary m earlier
      · rwa [List.mem_singleton.mp last]

/-- **A label without a tag was inside its unit, and lies where its place alone puts it.** -/
theorem Linked.place_of_untagged (h : Linked ps q) (merged : 2 ≤ ps.length) (hk : ps[k]? = some m)
    (hb : m.labels.get? n = some b) (hq : q.tags.get? n = none) :
    m.layout.kindOf b ≠ .absolute ∧
      q.labels.get? n = some ((siteOf ps k m).place (m.layout.kindOf b) b) := by
  have none_tags := h.untagged hq
  have own := none_tags m (List.mem_of_getElem? hk)
  have settled := h.settled hk hb fun j m' _ hj => none_tags m' (List.mem_of_getElem? hj)
  constructor
  · intro outside
    have tag := settled.tag
    rw [hq, settledTag_of_outside own outside merged] at tag
    exact nomatch tag
  · rw [settled.place, kindOf_of_untagged own]

theorem Linked.exists_home (h : Linked ps q) (hn : n ∈ q.labels.keys) :
    ∃ (k : Nat) (m : Program) (b : Int), ps[k]? = some m ∧ m.labels.get? n = some b := by
  rw [h.keys_eq, List.mem_flatMap] at hn
  obtain ⟨m, hm, defined⟩ := hn
  obtain ⟨k, hk⟩ := List.getElem?_of_mem hm
  obtain ⟨b, hb⟩ := Table.mem_keys_iff.mp defined
  exact ⟨k, m, b, hk, hb⟩

/-- **The address space of a merged program.**  Every label comes from one of the inputs.  Those
without a tag lie in the address space, and two of them have one address exactly if they come from
one input and had one address there. -/
theorem untagged_labels_of_merges (h : merge p l = .ok r) (more : ls.foldlM merge r = .ok q) :
    (∀ n ∈ q.labels.keys,
      ∃ (k : Nat) (m : Program) (b : Int),
        (p :: l :: ls)[k]? = some m ∧ m.labels.get? n = some b) ∧
    (∀ n a, q.labels.get? n = some a → q.tags.get? n = none → 0 ≤ a ∧ a < q.layout.size) ∧
    (∀ (k k' : Nat) (m m' : Program) (n n' : String) (b b' : Int),
      (p :: l :: ls)[k]? = some m → m.labels.get? n = some b → q.tags.get? n = none →
      (p :: l :: ls)[k']? = some m' → m'.labels.get? n' = some b' → q.tags.get? n' = none →
        (q.labels.get? n = q.labels.get? n' ↔ k = k' ∧ b = b')) := by
  have run := linked_of_merges h more
  have merged : 2 ≤ (p :: l :: ls).length := Nat.le_add_left 2 ls.length
  refine ⟨fun n hn => run.exists_home hn, ?_, ?_⟩
  · intro n a ha untagged
    obtain ⟨k, m, b, hk, hb⟩ := run.exists_home (Table.mem_keys_iff.mpr ⟨a, ha⟩)
    obtain ⟨inside, place⟩ := run.place_of_untagged merged hk hb untagged
    obtain rfl := Option.some.inj (ha.symm.trans place)
    rw [← Layout.kindOf_ne_absolute_iff, run.layout_eq, kindOf_place hk inside]
    exact inside
  · intro k k' m m' n n' b b' hk hb untagged hk' hb' untagged'
    obtain ⟨inside, place⟩ := run.place_of_untagged merged hk hb untagged
    obtain ⟨inside', place'⟩ := run.place_of_untagged merged hk' hb' untagged'
    rw [place, place', Option.some.injEq]
    constructor
    · exact place_inj hk hk' inside inside'
    · rintro ⟨rfl, rfl⟩
      obtain rfl : m = m' := Option.some.inj (hk.symm.trans hk')
      rfl

end Program

/-- Two names for its one cell, and a fixed address that no program reaches. -/
def Sample.screen : Program where
  instructions := [⟨.int, [⟨.immediate, .number 16, none, none⟩]⟩]
  data := [⟨0, .number 7⟩]
  labels := ⟨[("pixel", 1), ("point", 1), ("memory", 753664)], by decide⟩
  name := "screen"

namespace Program

open Sample

/-- Behind `greeting`, and with `clock` behind it, the two names of the cell of `screen` are still
one address, inside the eight of the whole, and not the address of the cell of `clock`. -/
theorem screen_labels_behind_greeting :
    ∃ r q, merge greeting screen = .ok r ∧ [clock].foldlM merge r = .ok q ∧
      (∀ n ∈ ["pixel", "point", "now"], q.tags.get? n = none) ∧
      q.labels.get? "pixel" = q.labels.get? "point" ∧
      q.labels.get? "pixel" ≠ q.labels.get? "now" ∧
      ∀ a, q.labels.get? "pixel" = some a → 0 ≤ a ∧ a < q.layout.size := by
  have first : merge greeting screen = .ok (greeting.combine screen) :=
    merge_eq_ok_iff.mpr ⟨rfl, by decide, rfl⟩
  have second : merge (greeting.combine screen) clock =
      .ok ((greeting.combine screen).combine clock) :=
    merge_eq_ok_iff.mpr ⟨rfl, by rw [keys_labels_merge first]; decide, rfl⟩
  have more : [clock].foldlM merge (greeting.combine screen) =
      .ok ((greeting.combine screen).combine clock) := by
    rw [List.foldlM_cons, second]
    rfl
  have run := linked_of_merges first more
  have plain (n : String) : ∀ m ∈ [greeting, screen, clock], m.tags.get? n = none := by
    simp only [List.forall_mem_cons]
    exact ⟨rfl, rfl, rfl, nofun⟩
  have untagged : ∀ n ∈ ["pixel", "point", "now"],
      ((greeting.combine screen).combine clock).tags.get? n = none := by
    have others (n : String) (k : Nat) : TaggedOnlyAt [greeting, screen, clock] k n :=
      fun _ m _ hm => plain n m (List.mem_of_getElem? hm)
    simp only [List.forall_mem_cons]
    have pixel := run.settled (k := 1) (n := "pixel") (a := 1) rfl rfl (others _ 1)
    have point := run.settled (k := 1) (n := "point") (a := 1) rfl rfl (others _ 1)
    have now := run.settled (k := 2) (n := "now") (a := 2) rfl rfl (others _ 2)
    exact ⟨pixel.tag, point.tag, now.tag, nofun⟩
  obtain ⟨_, inside, same⟩ := untagged_labels_of_merges first more
  have pixel := untagged "pixel" (by decide)
  refine ⟨_, _, first, more, untagged, ?_, ?_, fun a ha => inside "pixel" a ha pixel⟩
  · exact (same 1 1 screen screen "pixel" "point" 1 1 rfl rfl pixel rfl rfl
      (untagged "point" (by decide))).mpr ⟨rfl, rfl⟩
  · intro meet
    have home := (same 1 2 screen clock "pixel" "now" 1 2 rfl rfl pixel rfl rfl
      (untagged "now" (by decide))).mp meet
    exact absurd home.1 (by decide)

end Program

end BootLink
