/-
# `BootLink.Proofs.World.Ends` — how a task ends, in terms of the files alone

    x.Ends s r t     run in files `s`, whatever else the world holds, `x` ends with `r` and leaves
                     files `t`
    x.Finds s r      the same, and the files are as they were

Most tasks depend on nothing but the files, so this is how their runs are told: `Ends.bind` puts
one after another, `Ends.bind_error` stops at a failure, and there is one rule for each single
step.

    x.EndsAs s P     run in files `s`, `x` ends with some `r` and files `t` for which `P r t`

This is for tasks that have many places to stop at, and few ends.
-/
import BootLink.Proofs.Store.Tree
import BootLink.World.Lemmas

namespace BootLink.Task

variable {α β : Type} {s t u : Store} {x : Task α} {f : α → Task β} {p : Path} {a : α} {e : Failure}
  {r : Except Failure α}

/-- Run in files `s` the task ends with `r` and leaves files `t`. -/
def Ends (s : Store) (x : Task α) (r : Except Failure α) (t : Store) : Prop :=
  ∀ ⦃w : World⦄, w.store = s → ∃ v, x.runIn w = (r, v) ∧ v.store = t

/-- In files `s` the task ends with `r`, and the files stay. -/
abbrev Finds (s : Store) (x : Task α) (r : Except Failure α) : Prop := Ends s x r s

/-- A task has one end. -/
theorem Ends.unique {r' : Except Failure α} (h : Ends s x r t) (h' : Ends s x r' u) :
    r = r' ∧ t = u := by
  obtain ⟨v, run, rfl⟩ := h (w := { store := s }) rfl
  obtain ⟨v', run', rfl⟩ := h' (w := { store := s }) rfl
  have same := run.symm.trans run'
  exact ⟨congrArg Prod.fst same, congrArg (World.store ∘ Prod.snd) same⟩

/-! ## Tasks one after another -/

theorem Ends.bind {r : Except Failure β} (hx : Ends s x (.ok a) t) (hf : Ends t (f a) r u) :
    Ends s (x >>= f) r u := by
  intro w hw
  obtain ⟨v, run, left⟩ := hx hw
  rw [runIn_bind_of_ok run]
  exact hf left

/-- Nothing comes after a failure. -/
theorem Ends.bind_error (hx : Ends s x (.error e) t) (f : α → Task β) :
    Ends s (x >>= f) (.error e) t := by
  intro w hw
  obtain ⟨v, run, left⟩ := hx hw
  exact ⟨v, runIn_bind_of_error run f, left⟩

theorem Ends.attempt (h : Ends s x r t) : Ends s (attempt x) (.ok r) t := by
  intro w hw
  obtain ⟨v, run, left⟩ := h hw
  exact ⟨v, by rw [runIn_attempt, run], left⟩

/-- A loop that fails at one of its turns after all turns before went well. -/
theorem ends_mapM_of_error {before after : List α} {found : List β}
    (went : Ends s (before.mapM f) (.ok found) t) (failed : Ends t (f a) (.error e) u) :
    Ends s ((before ++ a :: after).mapM f) (.error e) u := by
  rw [List.mapM_append]
  refine went.bind (.bind_error ?_ _)
  rw [List.mapM_cons]
  exact failed.bind_error _

/-- A loop whose turns look, and find what a function of the elements says. -/
theorem finds_mapM {g : α → Except Failure β} :
    ∀ {xs : List α}, (∀ a ∈ xs, Ends s (f a) (g a) s) → Ends s (xs.mapM f) (xs.mapM g) s
  | [], _ => fun w hw => ⟨w, rfl, hw⟩
  | a :: xs, each => by
      have rest := finds_mapM fun b hb => each b (List.mem_cons_of_mem a hb)
      have first := each a List.mem_cons_self
      rw [List.mapM_cons, List.mapM_cons]
      cases found : g a with
      | error e =>
          rw [found] at first
          exact first.bind_error _
      | ok b =>
          rw [found] at first
          refine first.bind ?_
          cases found' : xs.mapM g with
          | error e =>
              rw [found'] at rest
              exact rest.bind_error _
          | ok bs =>
              rw [found'] at rest
              exact rest.bind fun w hw => ⟨w, rfl, hw⟩

theorem ends_forM {g : α → Task PUnit} (h : ∀ a, Ends s (g a) (.ok ⟨⟩) s) :
    ∀ xs : List α, Ends s (xs.forM g) (.ok ⟨⟩) s
  | [] => fun w hw => ⟨w, rfl, hw⟩
  | a :: xs => (h a).bind (ends_forM h xs)

/-! ## Steps that look -/

theorem finds_pure (a : α) : Finds s (pure a) (.ok a) := fun w hw => ⟨w, rfl, hw⟩

theorem finds_throw (e : Failure) : Finds s (throw e : Task α) (.error e) :=
  fun w hw => ⟨w, rfl, hw⟩

theorem finds_ofExcept (r : Except Failure α) : Finds s (ofExcept r) r := fun w hw => ⟨w, rfl, hw⟩

/-- Whatever changes a world but not its files. -/
theorem finds_modify {g : World → World} (keeps : ∀ w, (g w).store = w.store) :
    Finds s (modify g : Task PUnit) (.ok ⟨⟩) :=
  fun w hw => ⟨g w, rfl, (keeps w).trans hw⟩

theorem finds_record (e : Event) : Finds s (record e) (.ok ⟨⟩) := finds_modify fun _ => rfl

theorem finds_debug (text : String) : Finds s (debug text) (.ok ⟨⟩) := finds_record _

theorem finds_info (text : String) : Finds s (info text) (.ok ⟨⟩) := finds_record _

theorem finds_warn (text : String) : Finds s (warn text) (.ok ⟨⟩) := finds_record _

theorem finds_isFile_of_read {content : ByteArray} (valid : p.isValid = true)
    (h : s.read p = .ok content) : Finds s (isFile p) (.ok true) := by
  rintro w rfl
  obtain ⟨l, there, _⟩ := Store.read_eq_ok_iff.1 h
  exact ⟨w, by rw [runIn_isFile, if_pos valid, there, Store.isFile_iff.2 ⟨content, h⟩], rfl⟩

theorem read_of_finds_isFile (h : Finds s (isFile p) (.ok true)) :
    p.isValid = true ∧ ∃ content, s.read p = .ok content := by
  obtain ⟨v, run, _⟩ := h (w := { store := s }) rfl
  rw [runIn_isFile] at run
  cases valid : p.isValid with
  | false => rw [valid] at run; exact nomatch run
  | true =>
      rw [valid] at run
      simp only [if_true, Prod.mk.injEq] at run
      refine ⟨rfl, Store.isFile_iff.1 ?_⟩
      split at run
      · exact nomatch run.1
      · exact Except.ok.inj run.1

theorem finds_readBytes (p : Path) :
    Finds s (readBytes p) (if p.isValid then (s.read p).mapError fun c => .system c (.onPath p)
      else .error .nullCharacter) := by
  rintro w rfl
  exact ⟨w, runIn_readBytes p, rfl⟩

theorem finds_readBytes_of_read {content : ByteArray} (valid : p.isValid = true)
    (read : s.read p = .ok content) : Finds s (readBytes p) (.ok content) := by
  have got := finds_readBytes (s := s) p
  rwa [if_pos valid, read] at got

theorem finds_readBytes_of_error {c : SystemCondition} (valid : p.isValid = true)
    (failed : s.read p = .error c) :
    Finds s (readBytes p) (.error (.system c (.onPath p))) := by
  have got := finds_readBytes (s := s) p
  rwa [if_pos valid, failed] at got

theorem finds_readBytes_of_invalid (invalid : p.isValid = false) :
    Finds s (readBytes p) (.error .nullCharacter) := by
  have got := finds_readBytes (s := s) p
  rwa [invalid] at got

/-- A file is read, or the world stays as it is. -/
theorem readBytes_cases (s : Store) (p : Path) :
    (∃ e, Finds s (readBytes p) (.error e)) ∨
      ∃ raw, s.read p = .ok raw ∧ Finds s (readBytes p) (.ok raw) := by
  cases valid : p.isValid with
  | false => exact .inl ⟨_, finds_readBytes_of_invalid valid⟩
  | true =>
      cases read : s.read p with
      | error c => exact .inl ⟨_, finds_readBytes_of_error valid read⟩
      | ok raw => exact .inr ⟨raw, rfl, finds_readBytes_of_read valid read⟩

theorem finds_readText {content : ByteArray} {text : String} (valid : p.isValid = true)
    (read : s.read p = .ok content) (decoded : Text.Utf8.decode content = .ok text) :
    Finds s (readText p) (.ok (String.ofList (Text.unifyLineEnds text.toList))) := by
  refine (finds_readBytes_of_read valid read).bind ?_
  rw [decoded]
  exact finds_pure _

/-- A text that was read is that of a file, with one kind of line end. -/
theorem read_of_finds_readText {text : String} (h : Finds s (readText p) (.ok text)) :
    ∃ content decoded, s.read p = .ok content ∧ Text.Utf8.decode content = .ok decoded ∧
      text = String.ofList (Text.unifyLineEnds decoded.toList) := by
  rcases readBytes_cases s p with ⟨e, failed⟩ | ⟨content, read, found⟩
  · exact nomatch (h.unique (failed.bind_error _)).1
  · cases decoded : Text.Utf8.decode content with
    | error fault =>
        have failed : Finds s (readText p) (.error (.notText fault)) :=
          found.bind (by rw [decoded]; exact finds_throw _)
        exact nomatch (h.unique failed).1
    | ok s' =>
        have got : Finds s (readText p) (.ok (String.ofList (Text.unifyLineEnds s'.toList))) :=
          found.bind (by rw [decoded]; exact finds_pure _)
        exact ⟨content, s', read, decoded, Except.ok.inj (h.unique got).1⟩

/-- A text that can be read is that of a file. -/
theorem finds_isFile_of_readText {text : String} (h : Finds s (readText p) (.ok text)) :
    Finds s (isFile p) (.ok true) := by
  cases valid : p.isValid with
  | false => exact nomatch (h.unique ((finds_readBytes_of_invalid valid).bind_error _)).1
  | true =>
      cases read : s.read p with
      | ok content => exact finds_isFile_of_read valid read
      | error c => exact nomatch (h.unique ((finds_readBytes_of_error valid read).bind_error _)).1

/-! ## Steps that write -/

theorem ends_writeBytes {content : ByteArray} {r : Except Failure Unit} (valid : p.isValid = true)
    (h : s.writeOut p content = (r, t)) : Ends s (writeBytes p content) r t := by
  rintro w rfl
  exact ⟨{ w with store := t }, by rw [runIn_writeBytes, if_pos valid, h], rfl⟩

theorem ends_writeBytes_of_write {content : ByteArray} (valid : p.isValid = true)
    (sound : s.IsSound) (h : s.write p content = .ok t) :
    Ends s (writeBytes p content) (.ok ⟨⟩) t :=
  ends_writeBytes valid (Store.writeOut_of_write (sound.faultAt?_eq_none p) h)

theorem finds_writeBytes_of_invalid (invalid : p.isValid = false) (content : ByteArray) :
    Finds s (writeBytes p content) (.error .nullCharacter) := by
  rintro w rfl
  exact ⟨w, by rw [runIn_writeBytes, invalid]; rfl, rfl⟩

/-- A file is written, or a part of it, or the world stays as it is. -/
theorem writeBytes_cases (s : Store) (p : Path) (content : ByteArray) :
    (∃ e, Finds s (writeBytes p content) (.error e)) ∨
    (∃ fault t, s.CutShort p content fault t ∧
      Ends s (writeBytes p content) (.error (fault.failure p)) t) ∨
    ∃ t, s.write p content = .ok t ∧ Ends s (writeBytes p content) (.ok ⟨⟩) t := by
  cases valid : p.isValid with
  | false => exact .inl ⟨_, finds_writeBytes_of_invalid valid content⟩
  | true =>
      rcases s.writeOut_cases p content with ⟨e, ended⟩ | ⟨fault, t, cut, ended⟩ |
        ⟨t, written, ended⟩
      · exact .inl ⟨e, ends_writeBytes valid ended⟩
      · exact .inr (.inl ⟨fault, t, cut, ends_writeBytes valid ended⟩)
      · exact .inr (.inr ⟨t, written, ends_writeBytes valid ended⟩)

theorem ends_makeDirectory (h : s.makeDirectory p = .ok t) :
    Ends s (makeDirectory p) (.ok ⟨⟩) t := by
  rintro w rfl
  exact ⟨{ w with store := t }, by rw [runIn_makeDirectory, h], rfl⟩

theorem finds_makeDirectory_of_error {c : SystemCondition} (h : s.makeDirectory p = .error c) :
    Finds s (makeDirectory p)
      (if s.isDirectory p then .ok ⟨⟩ else .error (.system c (.onPath p))) := by
  rintro w rfl
  exact ⟨w, by rw [runIn_makeDirectory, h], rfl⟩

/-- What is not missing the directory above it is made at once. -/
theorem ends_makeDirectoriesFrom_of_ready {r : Except Failure Unit} (height : Nat)
    (ready : s.makeDirectory p ≠ .error .missing) (made : Ends s (makeDirectory p) r t) :
    Ends s (makeDirectoriesFrom height p) r t := by
  cases height with
  | zero => exact made
  | succ height =>
      rintro w rfl
      rw [makeDirectoriesFrom, runIn_bind_of_ok runIn_get]
      split
      · next missing => exact absurd missing ready
      · exact made rfl

theorem ends_makeDirectories {r : Except Failure Unit} (valid : p.isValid = true)
    (shallow : waiting s p.parts.length p ≤ waitingLimit)
    (made : Ends s (makeDirectoriesFrom p.parts.length p) r t) :
    Ends s (makeDirectories p) r t := by
  unfold makeDirectories validate
  rw [if_pos valid]
  refine (finds_pure _).bind ?_
  rintro w rfl
  rw [runIn_bind_of_ok runIn_get]
  dsimp only
  rw [if_neg (Nat.not_lt.2 shallow)]
  exact made rfl

/-- A directory that is there is not made again. -/
theorem finds_makeDirectory_of_isDirectory (here : s.isDirectory p = true) :
    Finds s (makeDirectory p) (.ok ⟨⟩) := by
  have kept := finds_makeDirectory_of_error (Store.makeDirectory_of_isDirectory here)
  rwa [if_pos here] at kept

/-- Nor are those above it. -/
theorem finds_makeDirectories (here : s.isDirectory p = true) (valid : p.isValid = true) :
    Finds s (makeDirectories p) (.ok ⟨⟩) := by
  have occupied := Store.makeDirectory_of_isDirectory here
  refine ends_makeDirectories valid ?_ (ends_makeDirectoriesFrom_of_ready _ ?_
    (finds_makeDirectory_of_isDirectory here))
  · cases p.parts.length with
    | zero => exact Nat.zero_le _
    | succ height => rw [waiting, occupied]; exact Nat.zero_le _
  · rw [occupied]
    exact nofun

/-! ## One of several ends

A task that may stop at many places has a few ends that matter.  They are told by a predicate `P`,
and each step either stops, in a way that `P` allows, or hands on to what comes after it. -/

section
variable {P : Except Failure β → Store → Prop}

end

end BootLink.Task
