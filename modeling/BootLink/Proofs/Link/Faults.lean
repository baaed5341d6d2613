/-
# `BootLink.Proofs.Link.Faults` — when a link fails, and what it says then

A merge fails by what it sees of the program so far, and of that it looks at one thing, the names
of the labels.  Those are the names of all the units before (`Linked.keys_eq`), so whether a link
fails is a matter of the units alone:

    link ps succeeds   ↔   ps is not empty, no unit behind the first is linked already,
                           and no two units define one label

and a link that fails does so at the first unit that stands against this, behind units that link
(`exists_failed_merge`).  `link_fails_at_first_offender` is the whole of it, with the fault.

The names in the fault are another matter.  The program so far has one name for all the units that
went into it, the name of the first.  So the fault of a label that two units define names the first
unit and the later one of the two, whichever unit it was that defined the label before:
`duplicateLabel_names_first_unit` says when this is right, and `library_clash_names_primary` is
the smallest link for which it is not.
-/
import BootLink.Proofs.Link.Labels
import Mathlib.Data.List.Induction
import Mathlib.Data.List.Nodup

namespace BootLink

namespace Program

variable {ps : List Program} {p q l m r : Program} {e : RelocationFault}

/-! ## A merge that fails -/

theorem merge_eq_error_iff :
    merge p l = .error e ↔
      (l.isLinked = true ∧ e = .alreadyLinked l.name) ∨
        (l.isLinked = false ∧ ∃ n, p.labels.firstShared? l.labels = some n ∧
          e = .duplicateLabel n p.name l.name) := by
  unfold merge
  cases l.isLinked with
  | true => simp [eq_comm]
  | false =>
      cases p.labels.firstShared? l.labels with
      | some n => simp [eq_comm]
      | none => simp

@[simp] theorem name_asLinked (p : Program) : p.asLinked.name = p.name := by
  unfold asLinked; split <;> rfl

theorem name_merge (h : merge p l = .ok r) : r.name = p.name := by
  obtain ⟨_, _, rfl⟩ := merge_eq_ok_iff.mp h
  rfl

/-- However many units went into it, a link has the name of the first. -/
theorem Linked.head_name (h : Linked ps q) :
    ∃ first, ps[0]? = some first ∧ q.name = first.name := by
  induction h with
  | first p => exact ⟨p, rfl, name_asLinked p⟩
  | behind hq hm ih =>
      obtain ⟨first, hfirst, hname⟩ := ih
      have position := (List.getElem?_eq_some_iff.mp hfirst).1
      refine ⟨first, ?_, (name_merge hm).trans hname⟩
      rw [List.getElem?_append_left position, hfirst]

theorem Linked.mem_keys_iff (h : Linked ps q) {n : String} :
    n ∈ q.labels.keys ↔ ∃ p ∈ ps, n ∈ p.labels.keys := by
  rw [h.keys_eq, List.mem_flatMap]

/-! ## When a link succeeds -/

/-- The units of a list can be linked in their order. -/
structure Linkable (ps : List Program) : Prop where
  nonempty : ps ≠ []
  plain : ∀ m ∈ ps.tail, m.isLinked = false
  apart : ps.Pairwise fun p m => p.labels.keys.Disjoint m.labels.keys

theorem Linkable.snoc_iff (ne : ps ≠ []) :
    Linkable (ps ++ [l]) ↔
      Linkable ps ∧ l.isLinked = false ∧ ∀ n ∈ l.labels.keys, ∀ p ∈ ps, n ∉ p.labels.keys := by
  have tail : (ps ++ [l]).tail = ps.tail ++ [l] := List.tail_append_of_ne_nil ne
  constructor
  · intro h
    have plain := h.plain
    rw [tail] at plain
    obtain ⟨apart, _, last⟩ := List.pairwise_append.mp h.apart
    refine ⟨⟨ne, fun m hm => plain m (List.mem_append_left _ hm), apart⟩,
      plain l (List.mem_append_right _ (List.mem_singleton_self l)), ?_⟩
    intro n hn p hp
    exact fun hp' => last p hp l (List.mem_singleton_self l) hp' hn
  · rintro ⟨h, plain, fresh⟩
    refine ⟨List.append_ne_nil_of_left_ne_nil ne _, ?_, ?_⟩
    · intro m hm
      rw [tail] at hm
      rcases List.mem_append.mp hm with hm | hm
      · exact h.plain m hm
      · exact List.mem_singleton.mp hm ▸ plain
    · refine List.pairwise_append.mpr ⟨h.apart, List.pairwise_singleton _ _, ?_⟩
      intro p hp m hm n hn hn'
      obtain rfl := List.mem_singleton.mp hm
      exact fresh n hn' p hp hn

/-- Whether one more unit can be merged depends on the units before it alone. -/
theorem Linked.exists_merge_iff (h : Linked ps q) :
    (∃ r, merge q l = .ok r) ↔
      l.isLinked = false ∧ ∀ n ∈ l.labels.keys, ∀ p ∈ ps, n ∉ p.labels.keys := by
  simp only [merge_eq_ok_iff, h.mem_keys_iff, not_exists, not_and]
  exact ⟨fun ⟨_, plain, fresh, _⟩ => ⟨plain, fresh⟩, fun ⟨plain, fresh⟩ => ⟨_, plain, fresh, rfl⟩⟩

theorem Linked.linkable (h : Linked ps q) : Linkable ps := by
  induction h with
  | first p => exact ⟨List.cons_ne_nil _ _, nofun, List.pairwise_singleton _ _⟩
  | behind hq hm ih =>
      exact (Linkable.snoc_iff hq.ne_nil).mpr ⟨ih, hq.exists_merge_iff.mp ⟨_, hm⟩⟩

theorem Linkable.exists_linked (h : Linkable ps) : ∃ q, Linked ps q := by
  induction ps using List.reverseRecOn with
  | nil => exact absurd rfl h.nonempty
  | append_singleton ps l ih =>
      by_cases ne : ps = []
      · subst ne
        exact ⟨_, .first l⟩
      · obtain ⟨earlier, last⟩ := (Linkable.snoc_iff ne).mp h
        obtain ⟨q, hq⟩ := ih earlier
        obtain ⟨r, hr⟩ := hq.exists_merge_iff.mpr last
        exact ⟨r, hq.behind hr⟩

theorem exists_link_eq_ok_iff : (∃ q, link ps = .ok q) ↔ Linkable ps := by
  constructor
  · rintro ⟨q, hq⟩
    exact (link_eq_ok_iff.mp hq).linkable
  · intro h
    obtain ⟨q, hq⟩ := h.exists_linked
    exact ⟨q, link_eq_ok_iff.mpr hq⟩

/-- No label has two homes. -/
theorem Linkable.index_unique (h : Linkable ps) {j k : Nat} (hj : ps[j]? = some p)
    (hk : ps[k]? = some m) {n : String} (hn : n ∈ p.labels.keys) (hn' : n ∈ m.labels.keys) :
    j = k := by
  obtain ⟨hjlt, rfl⟩ := List.getElem?_eq_some_iff.mp hj
  obtain ⟨hklt, rfl⟩ := List.getElem?_eq_some_iff.mp hk
  have apart := List.pairwise_iff_getElem.mp h.apart
  rcases Nat.lt_trichotomy j k with earlier | same | later
  · exact absurd hn' (apart j k hjlt hklt earlier hn)
  · exact same
  · exact absurd hn (apart k j hklt hjlt later hn')

/-! ## Where a link fails -/

theorem failed_of_foldlM :
    ∀ {ls ps : List Program} {q : Program}, Linked ps q → ls.foldlM merge q = .error e →
      ∃ before q' m after,
        ps ++ ls = before ++ m :: after ∧ Linked before q' ∧ merge q' m = .error e
  | [], _, _, _, h => nomatch h
  | l :: ls, ps, q, hq, h => by
      rw [List.foldlM_cons] at h
      cases hm : merge q l with
      | error e' =>
          -- the first merge of all to fail: nothing behind it is looked at
          rw [hm] at h
          obtain rfl : e' = e := Except.error.inj h
          exact ⟨ps, q, l, ls, rfl, hq, hm⟩
      | ok r =>
          rw [hm] at h
          have later := failed_of_foldlM (hq.behind hm) h
          rwa [List.append_assoc] at later

/-- **A link that fails does so at one merge**, and the units before it link. -/
theorem link_eq_error_iff :
    link ps = .error e ↔
      ps = [] ∧ e = .nothingToLink ∨
        ∃ before q m after,
          ps = before ++ m :: after ∧ Linked before q ∧ merge q m = .error e := by
  constructor
  · intro h
    cases ps with
    | nil => exact Or.inl ⟨rfl, (Except.error.inj h).symm⟩
    | cons p rest => exact Or.inr (failed_of_foldlM (.first p) h)
  · rintro (⟨rfl, rfl⟩ | ⟨before, q, m, after, rfl, run, failed⟩)
    · rfl
    · rw [link_append run.ne_nil, link_eq_ok_iff.mpr run]
      show (m :: after).foldlM merge q = _
      rw [List.foldlM_cons, failed]
      rfl

/-- The unit at index `k` cannot come behind those before it: it is linked already, or it defines
a label that one of them defines. -/
def Offends (ps : List Program) (k : Nat) : Prop :=
  1 ≤ k ∧ ∃ m, ps[k]? = some m ∧
    (m.isLinked = true ∨ ∃ n ∈ m.labels.keys, ∃ p ∈ ps.take k, n ∈ p.labels.keys)

theorem Linkable.not_offends (h : Linkable ps) (k : Nat) : ¬ Offends ps k := by
  rintro ⟨hk, m, hm, reason⟩
  obtain ⟨hlt, rfl⟩ := List.getElem?_eq_some_iff.mp hm
  rcases reason with linked | ⟨n, hn, p, hp, hn'⟩
  · have later : ps[k] ∈ ps.tail := by
      refine List.mem_iff_getElem?.mpr ⟨k - 1, ?_⟩
      rw [List.getElem?_tail, Nat.sub_add_cancel hk, hm]
    exact Bool.false_ne_true ((h.plain _ later).symm.trans linked)
  · obtain ⟨j, hj, rfl⟩ := List.mem_take_iff_getElem.mp hp
    have twice := h.index_unique (List.getElem?_eq_getElem (by omega)) hm hn' hn
    omega

theorem Offends.of_append {before after : List Program} {k : Nat} (hk : k < before.length)
    (h : Offends (before ++ after) k) : Offends before k := by
  obtain ⟨pos, m, hm, reason⟩ := h
  rw [List.getElem?_append_left hk] at hm
  rw [List.take_append_of_le_length (Nat.le_of_lt hk)] at reason
  exact ⟨pos, m, hm, reason⟩

/-- `n` is the first of the labels of `m`, in the order of its table, that a unit of `ps`
defines. -/
structure FirstClash (ps : List Program) (m : Program) (n : String) : Prop where
  defined : ∃ p ∈ ps, n ∈ p.labels.keys
  first : ∃ before after, m.labels.keys = before ++ n :: after ∧
    ∀ x ∈ before, ∀ p ∈ ps, x ∉ p.labels.keys

theorem FirstClash.mem_keys {n : String} (h : FirstClash ps m n) : n ∈ m.labels.keys := by
  obtain ⟨before, after, keys, _⟩ := h.first
  rw [keys]
  exact List.mem_append_right _ List.mem_cons_self

theorem Linked.firstShared?_eq_some_iff (h : Linked ps q) {n : String} :
    q.labels.firstShared? m.labels = some n ↔ FirstClash ps m n := by
  simp only [Table.firstShared?_eq_some_iff, h.mem_keys_iff, not_exists, not_and]
  exact ⟨fun ⟨defined, least⟩ => ⟨defined, least⟩, fun ⟨defined, least⟩ => ⟨defined, least⟩⟩

theorem Linked.merge_eq_error_iff (h : Linked ps q) :
    merge q m = .error e ↔
      m.isLinked = true ∧ e = .alreadyLinked m.name ∨
        m.isLinked = false ∧ ∃ n, FirstClash ps m n ∧ e = .duplicateLabel n q.name m.name := by
  rw [Program.merge_eq_error_iff]
  simp only [h.firstShared?_eq_some_iff]

theorem Linked.link_clash (h : Linked ps q) (plain : m.isLinked = false) {n : String}
    (clash : FirstClash ps m n) {after : List Program} :
    link (ps ++ m :: after) = .error (.duplicateLabel n q.name m.name) :=
  link_eq_error_iff.mpr <| Or.inr
    ⟨ps, q, m, after, rfl, h, h.merge_eq_error_iff.mpr (Or.inr ⟨plain, n, clash, rfl⟩)⟩

/-- **A link fails exactly when it must, and at the first offender.**  The second half names that
unit and the fault: being linked goes before a shared label, and of several shared labels the one
that comes first in the unit is told. -/
theorem link_fails_at_first_offender (ps : List Program) :
    ((∃ q, link ps = .ok q) ↔
      ps ≠ [] ∧ (∀ m ∈ ps.tail, m.isLinked = false) ∧
        ps.Pairwise fun p m => p.labels.keys.Disjoint m.labels.keys) ∧
    ∀ e, link ps = .error e →
      ps = [] ∧ e = .nothingToLink ∨
      ∃ first k m, ps[0]? = some first ∧ ps[k]? = some m ∧
        Offends ps k ∧ (∀ j < k, ¬ Offends ps j) ∧
        (m.isLinked = true ∧ e = .alreadyLinked m.name ∨
          m.isLinked = false ∧ ∃ n, FirstClash (ps.take k) m n ∧
            e = .duplicateLabel n first.name m.name) := by
  constructor
  · rw [exists_link_eq_ok_iff]
    exact ⟨fun ⟨ne, plain, apart⟩ => ⟨ne, plain, apart⟩,
      fun ⟨ne, plain, apart⟩ => ⟨ne, plain, apart⟩⟩
  · intro e h
    rcases link_eq_error_iff.mp h with empty | ⟨before, q, m, after, rfl, run, failed⟩
    · exact Or.inl empty
    · obtain ⟨first, hfirst, name⟩ := run.head_name
      have position := List.length_pos_iff.mpr run.ne_nil
      have head : (before ++ m :: after)[0]? = some first := by
        rw [List.getElem?_append_left position, hfirst]
      have unit : (before ++ m :: after)[before.length]? = some m := by simp
      have earlier (j : Nat) (hj : j < before.length) : ¬ Offends (before ++ m :: after) j :=
        fun offends => run.linkable.not_offends j (offends.of_append hj)
      have fault := run.merge_eq_error_iff.mp failed
      rw [name] at fault
      refine Or.inr ⟨first, before.length, m, head, unit, ⟨position, m, unit, ?_⟩, earlier, ?_⟩
      · rw [List.take_left]
        rcases fault with ⟨linked, _⟩ | ⟨_, n, clash, _⟩
        · exact Or.inl linked
        · exact Or.inr ⟨n, clash.mem_keys, clash.defined⟩
      · rw [List.take_left]
        exact fault

end Program

/-- A library that defines a label of `clock` behind a label of its own. -/
def Sample.alarm : Program where
  instructions := [⟨.int, [⟨.immediate, .number 16, none, none⟩]⟩]
  labels := ⟨[("ring", 0), ("tick", 0)], by decide⟩
  name := "alarm"

namespace Program

open Sample

theorem link_alarm_behind_clock (after : List Program) :
    link (greeting :: clock :: alarm :: after) =
      .error (.duplicateLabel "tick" "greeting" "alarm") := by
  have run : Linked [greeting, clock] (greeting.asLinked.combine clock) :=
    (Linked.first greeting).behind (merge_eq_ok_iff.mpr ⟨rfl, by decide, rfl⟩)
  exact run.link_clash rfl ⟨by decide, ["ring"], [], rfl, by decide⟩

/-- The third unit is told for the label that it shares with the second; that the fourth is linked
already, and shares labels as well, does not matter any more. -/
theorem alarm_offends_before_linked_clock :
    link [greeting, clock, alarm, clock.asLinked] =
        .error (.duplicateLabel "tick" "greeting" "alarm") ∧
      Offends [greeting, clock, alarm, clock.asLinked] 3 ∧
      Offends [greeting, clock, alarm, clock.asLinked] 2 ∧
      ¬ Offends [greeting, clock, alarm, clock.asLinked] 1 := by
  have failed := link_alarm_behind_clock [clock.asLinked]
  have linked : Offends [greeting, clock, alarm, clock.asLinked] 3 :=
    ⟨by decide, _, rfl, Or.inl rfl⟩
  rcases (link_fails_at_first_offender _).2 _ failed with
    ⟨empty, _⟩ | ⟨first, k, m, _, unit, offends, least, fault⟩
  · exact nomatch empty
  · -- the fault names the unit, and only the third one is called so
    have name : m.name = "alarm" := by
      rcases fault with ⟨_, e⟩ | ⟨_, n, _, e⟩
      · exact nomatch e
      · injection e with _ _ e
        exact e.symm
    obtain rfl : k = 2 := by
      match k, unit with
      | 0, unit => exact absurd (Option.some.inj unit ▸ name) (by decide)
      | 1, unit => exact absurd (Option.some.inj unit ▸ name) (by decide)
      | 2, _ => rfl
      | 3, unit => exact absurd (Option.some.inj unit ▸ name) (by decide)
    exact ⟨failed, linked, offends, least 1 (by decide)⟩

/-! ## The names in the fault -/

/-- **The fault of a label defined twice names the first unit of all and the later one of the two
that define it.**  With units of distinct names, both of the named units define the label exactly
if the first one does. -/
theorem duplicateLabel_names_first_unit {x a b : String} (distinct : (ps.map (·.name)).Nodup)
    (h : link ps = .error (.duplicateLabel x a b)) :
    ∃ first k m, ps[0]? = some first ∧ ps[k]? = some m ∧ a = first.name ∧ b = m.name ∧
      x ∈ m.labels.keys ∧ (∃ p ∈ ps.take k, x ∈ p.labels.keys) ∧
      ((∀ name ∈ [a, b], ∃ p ∈ ps, p.name = name ∧ x ∈ p.labels.keys) ↔
        x ∈ first.labels.keys) := by
  rcases link_eq_error_iff.mp h with ⟨_, e⟩ | ⟨before, q, m, after, rfl, run, failed⟩
  · exact nomatch e
  · rcases run.merge_eq_error_iff.mp failed with ⟨_, e⟩ | ⟨_, n, clash, e⟩
    · exact nomatch e
    · injection e with en ea eb
      subst en ea eb
      obtain ⟨first, hfirst, name⟩ := run.head_name
      have head : first ∈ before ++ m :: after :=
        List.mem_append_left _ (List.mem_of_getElem? hfirst)
      have unit : m ∈ before ++ m :: after := List.mem_append_right _ List.mem_cons_self
      refine ⟨first, before.length, m, ?_, by simp, name, rfl, clash.mem_keys, ?_, ?_⟩
      · rw [List.getElem?_append_left (List.getElem?_eq_some_iff.mp hfirst).1, hfirst]
      · rw [List.take_left]
        exact clash.defined
      · constructor
        · intro right
          obtain ⟨p, hp, same, defined⟩ := right q.name List.mem_cons_self
          -- the unit of this name is the first: names are distinct
          obtain rfl := List.inj_on_of_nodup_map distinct hp head (same.trans name)
          exact defined
        · intro defined name' hname'
          rcases List.mem_cons.mp hname' with rfl | hname'
          · exact ⟨first, head, name.symm, defined⟩
          · obtain rfl := List.mem_singleton.mp hname'
            exact ⟨m, unit, rfl, clash.mem_keys⟩

/-- Where the clash is with the first unit the names are right. -/
theorem alarm_clash_names_clock :
    link [clock, greeting, alarm] = .error (.duplicateLabel "tick" "clock" "alarm") ∧
      ∀ name ∈ ["clock", "alarm"],
        ∃ p ∈ [clock, greeting, alarm], p.name = name ∧ "tick" ∈ p.labels.keys := by
  have run : Linked [clock, greeting] (clock.asLinked.combine greeting) :=
    (Linked.first clock).behind (merge_eq_ok_iff.mpr ⟨rfl, by decide, rfl⟩)
  have failed : link [clock, greeting, alarm] = .error (.duplicateLabel "tick" "clock" "alarm") :=
    run.link_clash rfl ⟨by decide, ["ring"], [], rfl, by decide⟩
  obtain ⟨first, k, m, head, _, _, _, _, _, names⟩ :=
    duplicateLabel_names_first_unit (by decide) failed
  obtain rfl : clock = first := Option.some.inj head
  exact ⟨failed, names.mpr (by decide)⟩

/-- **A clash of two libraries is told of the first unit**, which has no part in it. -/
theorem library_clash_names_primary :
    link [greeting, clock, alarm] = .error (.duplicateLabel "tick" "greeting" "alarm") ∧
      (RelocationFault.duplicateLabel "tick" "greeting" "alarm").message =
        "label 'tick' is defined in both 'greeting' and 'alarm'" ∧
      ([greeting, clock, alarm].map (·.name)).Nodup ∧
      "tick" ∈ clock.labels.keys ∧ "tick" ∈ alarm.labels.keys ∧
      ¬ ∃ p ∈ [greeting, clock, alarm], p.name = "greeting" ∧ "tick" ∈ p.labels.keys :=
  ⟨link_alarm_behind_clock [], rfl, by decide, by decide, by decide, by decide⟩

end Program

end BootLink
