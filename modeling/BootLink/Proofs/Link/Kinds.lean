/-
# `BootLink.Proofs.Link.Kinds` — what a merge does to the kind of a label

The kind of a label says how later merges move it.  A merge moves every label by its own side's
kind, and the new place lies in the same part of the larger layout (`kindOf_moved_primary`,
`kindOf_moved_library`), so by place alone no label would ever change its kind.

Tags are another matter.  They are kept under bare names, and a side may tag a name that only the
other side defines: an external name, say, as one that is not bound yet.  Such a foreign tag goes
into the result and decides over the label from then on:

    p defines n   the result takes l's tag of n      unless n is absolute in p
    l defines n   the result takes p's tag of n      unless l tags n itself, or n is absolute in l

`classifyLabel?_merge_eq_iff` says exactly when the kind survives.  `foreign_tag_reclassifies` is
the smallest way to lose it, and shows what that costs one merge later: a label of a data cell
that names an instruction.
-/
import BootLink.Proofs.Link.Merge

namespace BootLink

namespace Program

variable {p l r : Program}

/-! ## The new place of an address is of the same kind -/

theorem kindOf_moved_primary (h : merge p l = .ok r) {a : Int}
    (inside : p.layout.kindOf a ≠ .absolute) :
    r.layout.kindOf ((placement p l).primaryAddress (p.layout.kindOf a) a) =
      p.layout.kindOf a := by
  have hr := layout_merge h
  cases k : p.layout.kindOf a with
  | code =>
      rw [Layout.kindOf_eq_code_iff] at k ⊢
      simp only [hr, Layout.code_add, Placement.primaryAddress]
      omega
  | data =>
      rw [Layout.kindOf_eq_data_iff] at k ⊢
      simp only [hr, Layout.code_add, Layout.data_add, Placement.primaryAddress, placement]
      omega
  | absolute => exact absurd k inside
  | unresolved => exact absurd k Layout.kindOf_ne_unresolved

theorem kindOf_moved_library (h : merge p l = .ok r) {a : Int}
    (inside : l.layout.kindOf a ≠ .absolute) :
    r.layout.kindOf ((placement p l).libraryAddress (l.layout.kindOf a) a) =
      l.layout.kindOf a := by
  have hr := layout_merge h
  cases k : l.layout.kindOf a with
  | code =>
      rw [Layout.kindOf_eq_code_iff] at k ⊢
      simp only [hr, Layout.code_add, Placement.libraryAddress, Placement.codeBase, placement]
      omega
  | data =>
      rw [Layout.kindOf_eq_data_iff] at k ⊢
      simp only [hr, Layout.code_add, Layout.data_add, Placement.libraryAddress,
        Placement.dataBase, placement]
      omega
  | absolute => exact absurd k inside
  | unresolved => exact absurd k Layout.kindOf_ne_unresolved

/-! ## The kind after a merge -/

/-- A label of the primary that is not absolute takes the library's tag, if there is one. -/
theorem classifyLabel?_merge_primary (h : merge p l = .ok r) {n : String} {a : Int}
    (hn : p.labels.get? n = some a) :
    r.classifyLabel? n = some (if p.kindOf n a = .absolute then .absolute
      else (l.tags.get? n).getD (p.kindOf n a)) := by
  rw [classifyLabel?_of_label (get?_labels_merge_primary h hn)]
  have tag := get?_tags_merge_primary h hn
  by_cases fixed : p.kindOf n a = .absolute
  · rw [if_pos fixed] at tag ⊢
    rw [kindOf_of_tag tag]
  · rw [if_neg fixed] at tag ⊢
    cases foreign : l.tags.get? n with
    | some t =>
        rw [foreign] at tag
        rw [kindOf_of_tag tag]
        rfl
    | none =>
        rw [foreign, Option.none_or] at tag
        cases own : p.tags.get? n with
        | some t =>
            rw [kindOf_of_tag (tag.trans own), kindOf_of_tag own]
            rfl
        | none =>
            rw [kindOf_of_untagged own] at fixed ⊢
            rw [kindOf_of_untagged (tag.trans own), kindOf_moved_primary h fixed]
            rfl

/-- A label of the library that it leaves untagged and that is not absolute takes the primary's
tag, if there is one. -/
theorem classifyLabel?_merge_library (h : merge p l = .ok r) {n : String} {a : Int}
    (hn : l.labels.get? n = some a) :
    r.classifyLabel? n = some (if l.kindOf n a = .absolute ∨ l.tags.get? n ≠ none
      then l.kindOf n a else (p.tags.get? n).getD (l.kindOf n a)) := by
  rw [classifyLabel?_of_label (get?_labels_merge_library h hn)]
  have tag := get?_tags_merge_library h hn
  cases own : l.tags.get? n with
  | some t =>
      have kind := kindOf_of_tag own a
      rw [if_pos (Or.inr nofun), kind]
      rw [own, kind, Option.some_or, ite_self] at tag
      rw [kindOf_of_tag tag]
  | none =>
      have kind := kindOf_of_untagged own a
      by_cases fixed : l.kindOf n a = .absolute
      · rw [if_pos (Or.inl fixed)] at tag ⊢
        rw [kindOf_of_tag tag]
      · have moves : ¬ (l.kindOf n a = .absolute ∨ l.kindOf n a = .unresolved) := by
          rintro (e | e)
          · exact fixed e
          · exact Layout.kindOf_ne_unresolved (kind.symm.trans e)
        rw [if_neg moves, own, Option.none_or] at tag
        rw [if_neg fun e => e.elim fixed fun e => e rfl]
        cases foreign : p.tags.get? n with
        | some t =>
            rw [kindOf_of_tag (tag.trans foreign)]
            rfl
        | none =>
            rw [kind] at fixed ⊢
            rw [kindOf_of_untagged (tag.trans foreign), kindOf_moved_library h fixed]
            rfl

/-! ## When the kind survives -/

/-- **A merge keeps the kind of a label exactly if no foreign tag goes over it.**  Where it does
keep it, every later merge moves the label as the side that defines it meant. -/
theorem classifyLabel?_merge_eq_iff (h : merge p l = .ok r) :
    (∀ n ∈ p.labels.keys,
      (r.classifyLabel? n = p.classifyLabel? n ↔
        l.tags.get? n = none ∨ l.tags.get? n = p.classifyLabel? n ∨
          p.classifyLabel? n = some .absolute)) ∧
    (∀ n ∈ l.labels.keys,
      (r.classifyLabel? n = l.classifyLabel? n ↔
        p.tags.get? n = none ∨ p.tags.get? n = l.classifyLabel? n ∨
          l.classifyLabel? n = some .absolute ∨ l.tags.get? n ≠ none)) ∧
    (∀ m ∈ [p, l], ∀ n k, n ∈ m.labels.keys → m.classifyLabel? n = some k →
      r.classifyLabel? n = m.classifyLabel? n → ∀ x s, merge r x = .ok s →
        s.labels.get? n = (r.labels.get? n).map ((placement r x).primaryAddress k)) := by
  refine ⟨?_, ?_, ?_⟩
  · intro n hn
    obtain ⟨a, ha⟩ := Table.mem_keys_iff.mp hn
    rw [classifyLabel?_merge_primary h ha, classifyLabel?_of_label ha]
    by_cases fixed : p.kindOf n a = .absolute
    · simp [fixed]
    · cases l.tags.get? n <;> simp [fixed]
  · intro n hn
    obtain ⟨a, ha⟩ := Table.mem_keys_iff.mp hn
    rw [classifyLabel?_merge_library h ha, classifyLabel?_of_label ha]
    cases own : l.tags.get? n with
    | some t => simp
    | none =>
        by_cases fixed : l.kindOf n a = .absolute
        · simp [fixed]
        · cases p.tags.get? n <;> simp [fixed]
  · intro m hm n k hn hk same x s hs
    have defined : n ∈ r.labels.keys := by
      rw [keys_labels_merge h]
      rcases List.mem_cons.mp hm with rfl | hl
      · exact List.mem_append_left _ hn
      · exact List.mem_append_right _ (List.mem_singleton.mp hl ▸ hn)
    obtain ⟨a, ha⟩ := Table.mem_keys_iff.mp defined
    rw [hk, classifyLabel?_of_label ha] at same
    rw [get?_labels_merge_primary hs ha, ha, Option.some.inj same]
    rfl

/-! ## Two libraries for one program -/

open Sample

/-- `msg` stays a data label behind `clock`, which does not tag it, and not behind `printer`. -/
theorem msg_kind_with_clock_and_printer :
    merge greeting clock = .ok (greeting.combine clock) ∧
      (greeting.combine clock).classifyLabel? "msg" = some .data ∧
      merge greeting printer = .ok (greeting.combine printer) ∧
      (greeting.combine printer).classifyLabel? "msg" ≠ some .data := by
  have defined : "msg" ∈ greeting.labels.keys := by decide
  have kind : greeting.classifyLabel? "msg" = some .data := rfl
  have withClock := (classifyLabel?_merge_eq_iff merge_greeting_clock).1 "msg" defined
  have withPrinter := (classifyLabel?_merge_eq_iff (merge_printer greeting)).1 "msg" defined
  rw [kind] at withClock withPrinter
  exact ⟨merge_greeting_clock, withClock.mpr (Or.inl rfl), merge_printer greeting,
    fun same => absurd (withPrinter.mp same) (by decide)⟩

/-- **A foreign tag changes the kind of a label that the other side defines.**  `printer` tags
`msg`, and the data label of `greeting` is an unbound one in the result.  One more merge, and it
names an instruction. -/
theorem foreign_tag_reclassifies :
    merge greeting printer = .ok (greeting.combine printer) ∧
      "msg" ∈ greeting.labels.keys ∧
      greeting.classifyLabel? "msg" = some .data ∧
      (greeting.combine printer).classifyLabel? "msg" = some .unresolved ∧
      merge (greeting.combine printer) printer =
        .ok ((greeting.combine printer).combine printer) ∧
      ((greeting.combine printer).combine printer).labels.get? "msg" = some 3 ∧
      ((greeting.combine printer).combine printer).layout.isCode 3 = true := by
  have once := merge_printer greeting
  have twice := merge_printer (greeting.combine printer)
  have kind := classifyLabel?_merge_primary once (n := "msg") (a := 2) rfl
  have place := get?_labels_merge_primary once (n := "msg") (a := 2) rfl
  have kindAfter := kind
  rw [classifyLabel?_of_label place] at kindAfter
  refine ⟨once, by decide, rfl, kind, twice, ?_, ?_⟩
  · rw [get?_labels_merge_primary twice place, Option.some.inj kindAfter]
    rfl
  · rfl

end Program

end BootLink
