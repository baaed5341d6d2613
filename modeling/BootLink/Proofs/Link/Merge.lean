/-
# `BootLink.Proofs.Link.Merge` — one merge, seen part by part

`merge p l` fails, or gives `p.combine l`.  This file says which of the two, and then what the
result `r` holds, one part at a time:

* its layout is the sum of the two layouts, its instructions and data are those of `p` followed
  by those of `l`, each rebased by its own rule;
* its labels are those of `p` followed by those of `l`, and a label of either side has moved as
  its kind in that side says (`get?_labels_merge_primary`, `get?_labels_merge_library`);
* its tags are, for every name at once, the pins of `l` over the pins of `p` over the tags of
  `l` over the tags of `p` (`get?_tags_merge`); the three cases that matter, by who defines the
  name, follow.

A merge refuses a name that both sides define, and that is what makes the two halves of the label
table independent.  Nothing of the kind holds for the tags: a side may tag a name that only the
other one defines, and the order in which the four groups go over each other decides.

Later files use these statements and never open `combine`.
-/
import BootLink.Link.Merge
import BootLink.Table.Lemmas

namespace BootLink

/-! ## Tables read backwards

A table read from a list takes the last value of a repeated key, so its look-ups are those of the
list reversed.  Where no key is repeated the direction does not matter. -/

namespace Table

variable {κ α : Type} [BEq κ] [LawfulBEq κ]

theorem lookup_reverse_eq_some_iff {xs : List (κ × α)} (h : (xs.map Prod.fst).Nodup) {k : κ}
    {a : α} : xs.reverse.lookup k = some a ↔ (k, a) ∈ xs := by
  have hr := get?_eq_some_iff (t := ⟨xs.reverse, nodup_keys_reverse h⟩) (k := k) (a := a)
  rw [List.mem_reverse] at hr
  exact hr

theorem lookup_reverse_entries (t : Table κ α) (k : κ) :
    t.entries.reverse.lookup k = t.get? k := by
  refine Option.ext fun a => ?_
  rw [lookup_reverse_eq_some_iff t.nodup, get?_eq_some_iff]

end Table

/-! ## Where an address lies -/

namespace Layout

variable {l : Layout} {a : Int}

/-- Sizes are added part by part. -/
instance : Add Layout := ⟨fun l m => ⟨l.code + m.code, l.data + m.data⟩⟩

@[simp] theorem mk_add (c d c' d' : Nat) :
    (⟨c, d⟩ : Layout) + ⟨c', d'⟩ = ⟨c + c', d + d'⟩ := rfl

@[simp] theorem code_add (l m : Layout) : (l + m).code = l.code + m.code := rfl

@[simp] theorem data_add (l m : Layout) : (l + m).data = l.data + m.data := rfl

theorem zero_add (l : Layout) : ⟨0, 0⟩ + l = l := by
  obtain ⟨c, d⟩ := l
  rw [mk_add, Nat.zero_add, Nat.zero_add]

theorem add_zero (l : Layout) : l + ⟨0, 0⟩ = l := rfl

theorem add_assoc (l m n : Layout) : l + m + n = l + (m + n) := by
  obtain ⟨c, d⟩ := l
  obtain ⟨c', d'⟩ := m
  obtain ⟨c'', d''⟩ := n
  rw [mk_add, mk_add, mk_add, mk_add, Nat.add_assoc, Nat.add_assoc]

theorem add_comm (l m : Layout) : l + m = m + l := by
  obtain ⟨c, d⟩ := l
  obtain ⟨c', d'⟩ := m
  rw [mk_add, mk_add, Nat.add_comm, Nat.add_comm d]

theorem isCode_iff : l.isCode a = true ↔ 0 ≤ a ∧ a < l.code := by
  simp [isCode]

theorem isData_iff : l.isData a = true ↔ l.code ≤ a ∧ a < l.code + l.data := by
  unfold isData
  rw [Bool.and_eq_true, decide_eq_true_eq, decide_eq_true_eq, size, Int.natCast_add]

theorem kindOf_eq_code_iff : l.kindOf a = .code ↔ 0 ≤ a ∧ a < l.code := by
  rw [← isCode_iff]
  unfold kindOf
  cases l.isCode a <;> cases l.isData a <;> simp

theorem kindOf_eq_data_iff : l.kindOf a = .data ↔ l.code ≤ a ∧ a < l.code + l.data := by
  have apart : l.isCode a = true → ¬ l.isData a = true := by
    rw [isCode_iff, isData_iff]
    omega
  rw [← isData_iff]
  unfold kindOf
  cases hc : l.isCode a with
  | true => simpa using apart hc
  | false => cases l.isData a <;> simp

theorem kindOf_ne_unresolved : l.kindOf a ≠ .unresolved := by
  unfold kindOf
  split
  · exact nofun
  · split <;> exact nofun

theorem kindOf_eq_absolute_iff : l.kindOf a = .absolute ↔ a < 0 ∨ l.code + l.data ≤ a := by
  have notCode := not_congr (kindOf_eq_code_iff (l := l) (a := a))
  have notData := not_congr (kindOf_eq_data_iff (l := l) (a := a))
  cases h : l.kindOf a with
  | code | data | absolute => rw [h] at notCode notData; simp at notCode notData ⊢; omega
  | unresolved => exact absurd h kindOf_ne_unresolved

end Layout

namespace Program

/-! ## The kind of a label -/

/-- What an address under a name means in a program: its tag decides, and else its place. -/
def kindOf (p : Program) (n : String) (a : Int) : AddressKind :=
  p.layout.classify (p.tags.get? n) a

theorem kindOf_of_tag {p : Program} {n : String} {t : AddressKind}
    (h : p.tags.get? n = some t) (a : Int) : p.kindOf n a = t := by
  rw [kindOf, h]
  rfl

theorem kindOf_of_untagged {p : Program} {n : String} (h : p.tags.get? n = none) (a : Int) :
    p.kindOf n a = p.layout.kindOf a := by
  rw [kindOf, h]
  rfl

theorem classifyLabel?_of_label {p : Program} {n : String} {a : Int}
    (h : p.labels.get? n = some a) : p.classifyLabel? n = some (p.kindOf n a) := by
  unfold classifyLabel? kindOf
  cases p.tags.get? n with
  | some t => rfl
  | none => rw [h]; rfl

theorem classifiedLabels_eq (p : Program) :
    p.classifiedLabels = p.labels.entries.map fun x => ⟨x.1, x.2, p.kindOf x.1 x.2⟩ := by
  simp [classifiedLabels, kindOf]

/-! ## When a merge succeeds -/

theorem merge_eq_ok_iff {p l r : Program} :
    merge p l = .ok r ↔
      l.isLinked = false ∧ (∀ n ∈ l.labels.keys, n ∉ p.labels.keys) ∧ r = p.combine l := by
  rw [← Table.firstShared?_eq_none_iff]
  unfold merge
  cases l.isLinked with
  | true => simp
  | false =>
      cases p.labels.firstShared? l.labels with
      | some n => simp
      | none => simp [eq_comm]

variable {p l r : Program}

/-- No name is defined on both sides of a merge. -/
theorem not_mem_keys_of_merge (h : merge p l = .ok r) {n : String} (hn : n ∈ l.labels.keys) :
    n ∉ p.labels.keys :=
  (merge_eq_ok_iff.mp h).2.1 n hn

theorem get?_library_of_primary (h : merge p l = .ok r) {n : String} {a : Int}
    (hn : p.labels.get? n = some a) : l.labels.get? n = none :=
  Table.get?_eq_none_iff.mpr fun hl =>
    not_mem_keys_of_merge h hl (Table.mem_keys_iff.mpr ⟨a, hn⟩)

theorem get?_primary_of_library (h : merge p l = .ok r) {n : String} {a : Int}
    (hn : l.labels.get? n = some a) : p.labels.get? n = none :=
  Table.get?_eq_none_iff.mpr (not_mem_keys_of_merge h (Table.mem_keys_iff.mpr ⟨a, hn⟩))

/-! ## Instructions, data, sizes -/

theorem instructions_merge (h : merge p l = .ok r) :
    r.instructions = p.instructions.map (·.rebasePrimary (placement p l)) ++
      l.instructions.map (·.rebaseLibrary (placement p l)) := by
  obtain ⟨_, _, rfl⟩ := merge_eq_ok_iff.mp h
  rfl

theorem data_merge (h : merge p l = .ok r) :
    r.data = p.data ++ l.data.map (·.rebase p.layout.data) := by
  obtain ⟨_, _, rfl⟩ := merge_eq_ok_iff.mp h
  rfl

theorem layout_merge (h : merge p l = .ok r) : r.layout = p.layout + l.layout := by
  simp [layout, instructions_merge h, data_merge h]

/-! ## Labels -/

/-- The label table of a merge, entry by entry. -/
theorem entries_labels_merge (h : merge p l = .ok r) :
    r.labels.entries =
      p.labels.entries.map
          (fun x => (x.1, (placement p l).primaryAddress (p.kindOf x.1 x.2) x.2)) ++
        l.labels.entries.map
          (fun x => (x.1, (placement p l).libraryAddress (l.kindOf x.1 x.2) x.2)) := by
  obtain ⟨_, fresh, rfl⟩ := merge_eq_ok_iff.mp h
  simp only [combine, classifiedLabels_eq, List.map_map, Function.comp_def, Label.moved]
  refine Table.entries_ofList ?_
  simp only [List.map_append, List.map_map, Function.comp_def]
  exact List.nodup_append.mpr ⟨p.labels.nodup, l.labels.nodup,
    fun n hp m hl e => fresh m hl (e ▸ hp)⟩

theorem keys_labels_merge (h : merge p l = .ok r) :
    r.labels.keys = p.labels.keys ++ l.labels.keys := by
  simp [Table.keys, entries_labels_merge h, Function.comp_def]

theorem get?_labels_merge_primary (h : merge p l = .ok r) {n : String} {a : Int}
    (hn : p.labels.get? n = some a) :
    r.labels.get? n = some ((placement p l).primaryAddress (p.kindOf n a) a) := by
  rw [Table.get?_eq_some_iff, entries_labels_merge h]
  exact List.mem_append_left _ (List.mem_map.mpr ⟨(n, a), Table.get?_eq_some_iff.mp hn, rfl⟩)

theorem get?_labels_merge_library (h : merge p l = .ok r) {n : String} {a : Int}
    (hn : l.labels.get? n = some a) :
    r.labels.get? n = some ((placement p l).libraryAddress (l.kindOf n a) a) := by
  rw [Table.get?_eq_some_iff, entries_labels_merge h]
  exact List.mem_append_right _ (List.mem_map.mpr ⟨(n, a), Table.get?_eq_some_iff.mp hn, rfl⟩)

/-! ## Tags -/

/-- The tag by which a merge pins a label of this side, if it pins it. -/
def pin? (p : Program) (pinned : Label → Bool) (n : String) : Option AddressKind :=
  (p.labels.get? n).bind fun a =>
    if pinned ⟨n, a, p.kindOf n a⟩ then some (p.kindOf n a) else none

theorem pin?_of_label (pinned : Label → Bool) {n : String} {a : Int}
    (h : p.labels.get? n = some a) :
    p.pin? pinned n = if pinned ⟨n, a, p.kindOf n a⟩ then some (p.kindOf n a) else none := by
  rw [pin?, h]
  rfl

theorem pin?_of_undefined (pinned : Label → Bool) {n : String} (h : p.labels.get? n = none) :
    p.pin? pinned n = none := by
  rw [pin?, h]
  rfl

theorem lookup_pins (p : Program) (pinned : Label → Bool) (n : String) :
    ((p.classifiedLabels.filter pinned).map Label.pin).reverse.lookup n = p.pin? pinned n := by
  have distinct : (((p.classifiedLabels.filter pinned).map Label.pin).map Prod.fst).Nodup := by
    have names : (p.classifiedLabels.map Label.name).Nodup := by
      simpa [classifiedLabels_eq, Function.comp_def] using p.labels.nodup
    simpa [Function.comp_def, Label.pin] using (List.filter_sublist.map Label.name).nodup names
  refine Option.ext fun t => ?_
  rw [Table.lookup_reverse_eq_some_iff distinct]
  simp only [classifiedLabels_eq, List.mem_map, List.mem_filter, pin?, Option.bind_eq_some_iff,
    Table.get?_eq_some_iff]
  constructor
  · rintro ⟨_, ⟨⟨x, hx, rfl⟩, hp⟩, e⟩
    obtain ⟨rfl, rfl⟩ := Prod.mk.inj e
    exact ⟨x.2, hx, if_pos hp⟩
  · rintro ⟨a, ha, e⟩
    by_cases hp : pinned ⟨n, a, p.kindOf n a⟩ = true
    · rw [if_pos hp] at e
      exact ⟨_, ⟨⟨(n, a), ha, rfl⟩, hp⟩, by rw [← Option.some.inj e]; rfl⟩
    · rw [if_neg hp] at e
      exact nomatch e

/-- **The tags of a merge**, for every name at once.  What stands further left goes over what
stands further right. -/
theorem get?_tags_merge (h : merge p l = .ok r) (n : String) :
    r.tags.get? n = (l.pin? Label.pinnedInLibrary n).or
      ((p.pin? Label.pinnedInPrimary n).or ((l.tags.get? n).or (p.tags.get? n))) := by
  obtain ⟨_, _, rfl⟩ := merge_eq_ok_iff.mp h
  rw [combine, Table.get?_ofList]
  simp only [List.reverse_append, List.lookup_append, lookup_pins, Table.lookup_reverse_entries]

/-- A label of the primary: absolute ones are pinned, else the library's tag goes over its own. -/
theorem get?_tags_merge_primary (h : merge p l = .ok r) {n : String} {a : Int}
    (hn : p.labels.get? n = some a) :
    r.tags.get? n = if p.kindOf n a = .absolute then some .absolute
      else (l.tags.get? n).or (p.tags.get? n) := by
  rw [get?_tags_merge h, pin?_of_undefined _ (get?_library_of_primary h hn), pin?_of_label _ hn]
  by_cases ha : p.kindOf n a = .absolute <;> simp [Label.pinnedInPrimary, ha]

/-- A label of the library: what does not move is pinned, else its own tag goes over the
primary's. -/
theorem get?_tags_merge_library (h : merge p l = .ok r) {n : String} {a : Int}
    (hn : l.labels.get? n = some a) :
    r.tags.get? n = if l.kindOf n a = .absolute ∨ l.kindOf n a = .unresolved
      then some (l.kindOf n a) else (l.tags.get? n).or (p.tags.get? n) := by
  rw [get?_tags_merge h, pin?_of_undefined _ (get?_primary_of_library h hn), pin?_of_label _ hn]
  by_cases ha : l.kindOf n a = .absolute ∨ l.kindOf n a = .unresolved <;>
    simp [Label.pinnedInLibrary, ha]

/-- A name that neither side defines. -/
theorem get?_tags_merge_undefined (h : merge p l = .ok r) {n : String}
    (hp : p.labels.get? n = none) (hl : l.labels.get? n = none) :
    r.tags.get? n = (l.tags.get? n).or (p.tags.get? n) := by
  rw [get?_tags_merge h, pin?_of_undefined _ hp, pin?_of_undefined _ hl]
  rfl

end Program

/-! ## Three small units

A program, a library with data of its own, and a library that tags a name it does not define. -/

namespace Sample

/-- Loads its own data cell by name, and jumps back to its first instruction. -/
def greeting : Program where
  instructions :=
    [⟨.load, [⟨.register, .name "I", none, none⟩, ⟨.label, .absent, some "msg", none⟩]⟩,
      ⟨.jmp, [⟨.label, .number 0, none, none⟩]⟩]
  data := [⟨0, .number 72⟩]
  labels := ⟨[("start", 0), ("msg", 2)], by decide⟩
  name := "greeting"

/-- Calls into its own code and loads its own data cell, both by number. -/
def clock : Program where
  instructions :=
    [⟨.call, [⟨.label, .number 1, none, none⟩]⟩,
      ⟨.load, [⟨.register, .name "II", none, none⟩, ⟨.label, .number 2, none, some .data⟩]⟩]
  data := [⟨0, .number 7⟩]
  labels := ⟨[("tick", 1), ("now", 2)], by decide⟩
  name := "clock"

/-- Loads `msg`, an external name to it, and says that the name is not bound yet. -/
def printer : Program where
  instructions :=
    [⟨.load, [⟨.register, .name "I", none, none⟩, ⟨.label, .absent, some "msg", none⟩]⟩]
  tags := ⟨[("msg", .unresolved)], by decide⟩
  name := "printer"

theorem merge_greeting_clock :
    Program.merge greeting clock = .ok (greeting.combine clock) :=
  Program.merge_eq_ok_iff.mpr ⟨rfl, by decide, rfl⟩

theorem merge_printer (p : Program) : Program.merge p printer = .ok (p.combine printer) :=
  Program.merge_eq_ok_iff.mpr ⟨rfl, nofun, rfl⟩

end Sample

end BootLink
