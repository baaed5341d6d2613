/-
# `BootLink.Table` — a finite map that keeps its order

A table holds each key once, in the order in which the keys first came. `ofList` reads a list of
pairs: a repeated key keeps its first place and takes its last value. Long lists are read in one
pass over a hash map, so that programs with tens of thousands of labels stay cheap.
-/
import Std.Data.HashMap
import Std.Data.HashSet

namespace BootLink

/-- Pairs of distinct keys and their values, in order. -/
structure Table (κ α : Type) where
  entries : List (κ × α)
  nodup : (entries.map Prod.fst).Nodup

namespace Table

variable {κ α : Type}

instance [DecidableEq κ] [DecidableEq α] : DecidableEq (Table κ α) := fun s t =>
  decidable_of_iff (s.entries = t.entries)
    ⟨fun h => by cases s; cases t; simp_all, fun h => h ▸ rfl⟩

/-- The table without entries. -/
def empty : Table κ α := ⟨[], List.nodup_nil⟩

instance : EmptyCollection (Table κ α) := ⟨empty⟩
instance : Inhabited (Table κ α) := ⟨empty⟩

/-- The keys in order. -/
def keys (t : Table κ α) : List κ := t.entries.map Prod.fst

/-- The number of keys. -/
def size (t : Table κ α) : Nat := t.entries.length

/-- The value of a key. -/
def get? [BEq κ] (t : Table κ α) (k : κ) : Option α := t.entries.lookup k

/-- The pairs whose key is new: neither in `seen` nor earlier in the list. -/
def firsts [BEq κ] [Hashable κ] : Std.HashSet κ → List (κ × α) → List (κ × α)
  | _, [] => []
  | seen, (k, a) :: rest =>
    if seen.contains k then firsts seen rest else (k, a) :: firsts (seen.insert k) rest

/-- The new keys are those of the list that have not been seen. -/
theorem mem_keys_firsts [BEq κ] [LawfulBEq κ] [Hashable κ] (xs : List (κ × α)) (k : κ) :
    ∀ seen : Std.HashSet κ,
      k ∈ (firsts seen xs).map Prod.fst ↔ k ∈ xs.map Prod.fst ∧ seen.contains k = false := by
  induction xs with
  | nil => intro _; simp [firsts]
  | cons x rest ih =>
    obtain ⟨k', a⟩ := x
    intro seen
    by_cases h : k = k'
    · subst h
      unfold firsts
      split
      · next old => simp [ih, old]
      · next fresh => simp [fresh]
    · have h' : ¬k' = k := fun e => h e.symm
      unfold firsts
      split
      · simp [ih, h]
      · rw [List.map_cons, List.mem_cons, ih]
        simp [h, h']

/-- The new keys are distinct. -/
theorem nodup_firsts [BEq κ] [LawfulBEq κ] [Hashable κ] (xs : List (κ × α)) :
    ∀ seen : Std.HashSet κ, ((firsts seen xs).map Prod.fst).Nodup := by
  induction xs with
  | nil => intro _; simp [firsts]
  | cons x rest ih =>
    obtain ⟨k, a⟩ := x
    intro seen
    unfold firsts
    split
    · exact ih seen
    · exact List.nodup_cons.2 ⟨fun m => by simp [mem_keys_firsts] at m, ih _⟩

/-- A repeated key keeps its first place and takes its last value. -/
def ofList [BEq κ] [LawfulBEq κ] [Hashable κ] (xs : List (κ × α)) : Table κ α :=
  let last := Std.HashMap.ofList xs
  ⟨(firsts ∅ xs).map fun (k, a) => (k, last.getD k a), by
    simpa [Function.comp_def] using nodup_firsts xs ∅⟩

/-- A key keeps its place and takes the new value; a new key comes last. -/
def insert [BEq κ] [LawfulBEq κ] [Hashable κ] (t : Table κ α) (k : κ) (a : α) : Table κ α :=
  ofList (t.entries ++ [(k, a)])

/-- The entries whose key satisfies a test. -/
def filterKeys (t : Table κ α) (p : κ → Bool) : Table κ α :=
  ⟨t.entries.filter fun (k, _) => p k, (List.filter_sublist.map Prod.fst).nodup t.nodup⟩

/-- The same map as a hash map; worth its cost when many keys are looked up. -/
def index [BEq κ] [Hashable κ] (t : Table κ α) : Std.HashMap κ α := Std.HashMap.ofList t.entries

/-- The first key of `other` that `t` holds as well. -/
def firstShared? [BEq κ] [Hashable κ] (t other : Table κ α) : Option κ :=
  let names := Std.HashSet.ofList t.keys
  other.keys.find? fun k => names.contains k

/-- Whether two tables map the same keys to the same values, in whatever order. -/
def sameEntries [BEq κ] [Hashable κ] [BEq α] (s t : Table κ α) : Bool :=
  let index := t.index
  s.size == t.size && s.entries.all fun (k, a) => index[k]? == some a

end Table

end BootLink
