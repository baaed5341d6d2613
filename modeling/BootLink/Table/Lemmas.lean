/-
# `BootLink.Table.Lemmas` — a table seen through its look-ups

A table is known by its entries and its look-ups. `get?_eq_some_iff` ties the two; the others say
what each operation does to them: a table read from a list has the keys of the list and their last
values, and is the list itself where no key is repeated.
-/
import BootLink.Table

namespace BootLink.Table

variable {κ α : Type}

/-- The entries are all there is to a table. -/
theorem ext_entries {s t : Table κ α} (h : s.entries = t.entries) : s = t := by
  cases s
  cases t
  obtain rfl := h
  rfl

/-! ## Look-ups -/

theorem get?_eq_some_iff [BEq κ] [LawfulBEq κ] {t : Table κ α} {k : κ} {a : α} :
    t.get? k = some a ↔ (k, a) ∈ t.entries := by
  obtain ⟨entries, nodup⟩ := t
  show entries.lookup k = some a ↔ (k, a) ∈ entries
  induction entries with
  | nil => simp
  | cons x rest ih =>
    obtain ⟨k', a'⟩ := x
    obtain ⟨fresh, nodup⟩ := List.nodup_cons.1 nodup
    rw [List.lookup_cons]
    by_cases h : k = k'
    · subst h
      have : (k, a) ∉ rest := fun m => fresh (List.mem_map.2 ⟨_, m, rfl⟩)
      simp [this, eq_comm]
    · have hb : (k == k') = false := by simpa using h
      simp [hb, h, ih nodup]

theorem get?_eq_none_iff [BEq κ] [LawfulBEq κ] {t : Table κ α} {k : κ} :
    t.get? k = none ↔ k ∉ t.keys := by
  constructor
  · intro h m
    obtain ⟨⟨_, a⟩, hm, rfl⟩ := List.mem_map.1 m
    rw [get?_eq_some_iff.2 hm] at h
    exact nomatch h
  · intro h
    cases e : t.get? k with
    | none => rfl
    | some a => exact absurd (List.mem_map.2 ⟨_, get?_eq_some_iff.1 e, rfl⟩) h

theorem mem_keys_iff [BEq κ] [LawfulBEq κ] {t : Table κ α} {k : κ} :
    k ∈ t.keys ↔ ∃ a, t.get? k = some a := by
  simp [get?_eq_some_iff, keys]

@[simp]
theorem get?_filterKeys [BEq κ] [LawfulBEq κ] (t : Table κ α) (p : κ → Bool) (k : κ) :
    (t.filterKeys p).get? k = if p k then t.get? k else none := by
  have same : ∀ a, (k, a) ∈ (t.filterKeys p).entries ↔ (k, a) ∈ t.entries ∧ p k = true := by
    intro a
    rw [filterKeys, List.mem_filter]
  split
  · next keep =>
    refine Option.ext fun a => ?_
    rw [get?_eq_some_iff, get?_eq_some_iff, same, and_iff_left keep]
  · next out =>
    rw [get?_eq_none_iff, mem_keys_iff]
    rintro ⟨a, h⟩
    exact out ((same a).1 (get?_eq_some_iff.1 h)).2

/-! ## Tables read from lists -/

/-- Pairs of distinct keys keep them distinct when they are reversed. -/
theorem nodup_keys_reverse {xs : List (κ × α)} (h : (xs.map Prod.fst).Nodup) :
    (xs.reverse.map Prod.fst).Nodup := by
  rw [List.map_reverse]
  exact List.pairwise_reverse.2 (h.imp fun ne e => ne e.symm)

section
variable [BEq κ] [LawfulBEq κ] [Hashable κ]

/-- Later pairs go over earlier ones, and those over what was there before. -/
theorem getElem?_insertMany (xs : List (κ × α)) (k : κ) :
    ∀ m : Std.HashMap κ α, (m.insertMany xs)[k]? = (xs.reverse.lookup k).or m[k]? := by
  induction xs with
  | nil => simp
  | cons x rest ih =>
    obtain ⟨k', a⟩ := x
    intro m
    rw [Std.HashMap.insertMany_cons, ih, List.reverse_cons, List.lookup_append, Option.or_assoc,
      Std.HashMap.getElem?_insert, List.lookup_cons, List.lookup_nil]
    by_cases h : k' = k
    · subst h
      simp
    · have hb : (k' == k) = false := by simpa using h
      have hb' : (k == k') = false := by simpa using fun e => h e.symm
      simp [hb, hb']

theorem getElem?_hashMap_ofList (xs : List (κ × α)) (k : κ) :
    (Std.HashMap.ofList xs)[k]? = xs.reverse.lookup k := by
  rw [Std.HashMap.ofList_eq_insertMany_empty, getElem?_insertMany]
  simp

@[simp]
theorem getElem?_index (t : Table κ α) (k : κ) : t.index[k]? = t.get? k := by
  have same : ∀ a, t.entries.reverse.lookup k = some a ↔ t.get? k = some a := by
    intro a
    rw [get?_eq_some_iff, ← List.mem_reverse]
    exact get?_eq_some_iff (t := ⟨t.entries.reverse, nodup_keys_reverse t.nodup⟩)
  rw [index, getElem?_hashMap_ofList]
  exact Option.ext same

@[simp]
theorem mem_keys_ofList {xs : List (κ × α)} {k : κ} :
    k ∈ (ofList xs).keys ↔ k ∈ xs.map Prod.fst := by
  have h : (ofList xs).keys = (firsts ∅ xs).map Prod.fst := by
    simp [ofList, keys, Function.comp_def]
  rw [h, mem_keys_firsts]
  simp

/-- A repeated key takes its last value. -/
theorem get?_ofList (xs : List (κ × α)) (k : κ) : (ofList xs).get? k = xs.reverse.lookup k := by
  rw [← getElem?_hashMap_ofList]
  cases e : (ofList xs).get? k with
  | none =>
    have : k ∉ xs.map Prod.fst := fun m => get?_eq_none_iff.1 e (mem_keys_ofList.2 m)
    rw [Std.HashMap.getElem?_ofList_of_contains_eq_false]
    simpa using this
  | some a =>
    have m := get?_eq_some_iff.1 e
    have hk := mem_keys_ofList.1 (List.mem_map.2 ⟨_, m, rfl⟩)
    obtain ⟨⟨k', b⟩, _, hb⟩ := List.mem_map.1 m
    obtain ⟨rfl, rfl⟩ := Prod.mk.inj hb
    have : k' ∈ Std.HashMap.ofList xs := by simpa using hk
    simp [Std.HashMap.getD_eq_getD_getElem?, Std.HashMap.getElem?_eq_some_getElem this]

/-- A list without repeated keys is read as it stands. -/
theorem firsts_eq_self {xs : List (κ × α)} :
    ∀ {seen : Std.HashSet κ}, (xs.map Prod.fst).Nodup → (∀ x ∈ xs, seen.contains x.1 = false) →
      firsts seen xs = xs := by
  induction xs with
  | nil => intros; rfl
  | cons x rest ih =>
    obtain ⟨k, a⟩ := x
    intro seen nodup fresh
    obtain ⟨hk, nodup⟩ := List.nodup_cons.1 nodup
    rw [firsts, if_neg (by simp [fresh _ (List.mem_cons_self ..)])]
    congr 1
    apply ih nodup
    intro y hy
    have : k ≠ y.1 := fun e => hk (e ▸ List.mem_map.2 ⟨y, hy, rfl⟩)
    simp [fresh y (List.mem_cons_of_mem _ hy), this]

theorem entries_ofList {xs : List (κ × α)} (h : (xs.map Prod.fst).Nodup) :
    (ofList xs).entries = xs := by
  show (firsts ∅ xs).map _ = xs
  rw [firsts_eq_self h (by simp)]
  refine (List.map_congr_left fun x hx => ?_).trans (List.map_id xs)
  have : (Std.HashMap.ofList xs)[x.1]? = some x.2 := by
    rw [getElem?_hashMap_ofList]
    exact (get?_eq_some_iff (t := ⟨xs.reverse, nodup_keys_reverse h⟩)).2 (by simpa using hx)
  simp [Std.HashMap.getD_eq_getD_getElem?, this]

/-! ## The other operations -/

theorem get?_insert (t : Table κ α) (k k' : κ) (a : α) :
    (t.insert k a).get? k' = if k' == k then some a else t.get? k' := by
  rw [insert, get?_ofList, List.reverse_append, ← getElem?_index, index, getElem?_hashMap_ofList]
  by_cases h : k' == k <;> simp [List.lookup_cons, h]

theorem firstShared?_eq_none_iff (t other : Table κ α) :
    t.firstShared? other = none ↔ ∀ k ∈ other.keys, k ∉ t.keys := by
  simp [firstShared?]

theorem firstShared?_eq_some_iff {t other : Table κ α} {k : κ} :
    t.firstShared? other = some k ↔
      k ∈ t.keys ∧
        ∃ before after, other.keys = before ++ k :: after ∧ ∀ k' ∈ before, k' ∉ t.keys := by
  rw [firstShared?, List.find?_eq_some_iff_append]
  simp

end

end BootLink.Table
