/-
# `BootLink.Proofs.Link.Binding` — binding a label early is binding it late

A label operand may name its label, which is looked up when bytecode is written, or hold the
label's address, which every merge moves.  `m.BoundEarly n a t m'` says that `m'` is the unit `m`
with any of its operands that name `n` turned into addresses: `a` with the tag `t`, or `a` without
one where control goes to the unit's own code.

    ps[k]? = some m      m.labels.get? n = some a      m.classifyLabel? n = some t
    no other unit of ps tags n                         m.BoundEarly n a t m'

`early_binding_agrees`: then `ps` and `ps` with `m'` in the place of `m` fail to link with the same
fault, or link to two programs for which bytecode is the same, byte for byte or fault for fault.

The two links run side by side.  Everything that a merge decides by (sizes, labels, tags, names)
is in the part that the two units share, which is `SameFrame`; it is kept merge by merge and takes
care of the faults as well.  For the instructions no such step is needed: the closed forms of
`Linked.instructions_eq` and `Linked.settled` give both ends at once.  An operand bound early has
been moved to `place t a`, and a name is looked up in a table that holds `place t a`.
-/
import BootLink.Component
import BootLink.Proofs.Bytecode.Encoding
import BootLink.Proofs.Link.Labels
import Mathlib.Data.List.Forall2

namespace BootLink

/-! ## What the generator looks at -/

/-- What goes with the bytecode depends on the sizes alone. -/
theorem Blob.ofProgram_congr {q q' : Program} (bytes : Bytecode.encode q' = Bytecode.encode q)
    (layout : q'.layout = q.layout) (labels : q'.labels = q.labels) :
    ofProgram q' = ofProgram q := by
  unfold ofProgram Bytecode.note
  simp only [bytes, layout, labels]

/-! ## Units that differ in their instructions alone -/

namespace Program

/-- The two programs differ in their instructions alone, and not in their number. -/
structure SameFrame (p p' : Program) : Prop where
  rest : p' = { p with instructions := p'.instructions }
  count : p'.instructions.length = p.instructions.length

theorem SameFrame.refl (p : Program) : SameFrame p p := ⟨rfl, rfl⟩

variable {p p' l l' q q' : Program}

section
variable (h : SameFrame p p')
include h

theorem SameFrame.labels : p'.labels = p.labels := by rw [h.rest]

theorem SameFrame.tags : p'.tags = p.tags := by rw [h.rest]

theorem SameFrame.data : p'.data = p.data := by rw [h.rest]

theorem SameFrame.name : p'.name = p.name := by rw [h.rest]

theorem SameFrame.origin : p'.origin = p.origin := by rw [h.rest]

theorem SameFrame.layout : p'.layout = p.layout := by
  rw [Program.layout, h.count, h.data]
  rfl

theorem SameFrame.classifiedLabels : p'.classifiedLabels = p.classifiedLabels := by
  unfold Program.classifiedLabels
  rw [h.layout, h.labels, h.tags]

theorem SameFrame.isLinked : p'.isLinked = p.isLinked := by
  unfold Program.isLinked
  rw [h.origin]

theorem SameFrame.asLinked : SameFrame p.asLinked p'.asLinked := by
  constructor
  · unfold Program.asLinked
    rw [h.origin]
    cases p.origin with
    | assembled => rw [h.name]; rw [h.rest]
    | linked sources => exact h.rest
  · rw [instructions_asLinked, instructions_asLinked, h.count]

end

theorem SameFrame.combine (hp : SameFrame p p') (hl : SameFrame l l') :
    SameFrame (p.combine l) (p'.combine l') := by
  constructor
  · unfold Program.combine mergedSources placement
    rw [hp.classifiedLabels, hl.classifiedLabels, hp.layout, hl.layout, hp.data, hl.data,
      hp.tags, hl.tags, hp.name, hl.name, hp.origin]
  · simp [Program.combine, hp.count, hl.count]

/-- The same fault, or two programs with the same frame. -/
def Alike (x y : Except RelocationFault Program) : Prop :=
  (∃ e, x = .error e ∧ y = .error e) ∨ ∃ q q', x = .ok q ∧ y = .ok q' ∧ SameFrame q q'

theorem alike_merge (hp : SameFrame p p') (hl : SameFrame l l') :
    Alike (merge p l) (merge p' l') := by
  unfold merge
  rw [hl.isLinked, hl.name, hp.labels, hl.labels, hp.name]
  cases l.isLinked with
  | true => exact Or.inl ⟨_, rfl, rfl⟩
  | false =>
      cases p.labels.firstShared? l.labels with
      | some n => exact Or.inl ⟨_, rfl, rfl⟩
      | none => exact Or.inr ⟨_, _, rfl, rfl, hp.combine hl⟩

theorem alike_foldlM {ls ls' : List Program} (h : List.Forall₂ SameFrame ls ls') :
    ∀ {q q' : Program}, SameFrame q q' → Alike (ls.foldlM merge q) (ls'.foldlM merge q') := by
  induction h with
  | nil => intro q q' hq; exact Or.inr ⟨q, q', rfl, rfl, hq⟩
  | cons hl _ ih =>
      intro q q' hq
      rw [List.foldlM_cons, List.foldlM_cons]
      rcases alike_merge hq hl with ⟨e, h, h'⟩ | ⟨r, r', h, h', hr⟩
      · rw [h, h']
        exact Or.inl ⟨e, rfl, rfl⟩
      · rw [h, h']
        exact ih hr

/-- **Units with the same frames link alike.** -/
theorem alike_link {ps ps' : List Program} (h : List.Forall₂ SameFrame ps ps') :
    Alike (link ps) (link ps') := by
  cases h with
  | nil => exact Or.inl ⟨_, rfl, rfl⟩
  | cons hp rest => exact alike_foldlM rest hp.asLinked

theorem extent_congr {ps ps' : List Program} (h : List.Forall₂ SameFrame ps ps') :
    extent ps' = extent ps := by
  induction h with
  | nil => rfl
  | cons hp _ ih => rw [extent, extent, hp.layout, ih]

theorem siteOf_congr {ps ps' : List Program} (h : List.Forall₂ SameFrame ps ps')
    (hp : SameFrame p p') (k : Nat) : siteOf ps' k p' = siteOf ps k p := by
  rw [siteOf, hp.layout, extent_congr (List.forall₂_take k h), extent_congr h]
  rfl

theorem forall₂_set {ps : List Program} {k : Nat} {m m' : Program} (hk : ps[k]? = some m)
    (h : SameFrame m m') : List.Forall₂ SameFrame ps (ps.set k m') := by
  induction ps generalizing k with
  | nil => exact nomatch hk
  | cons p ps ih =>
      cases k with
      | zero =>
          obtain rfl : p = m := Option.some.inj hk
          exact .cons h (List.forall₂_same.mpr fun p _ => .refl p)
      | succ k => exact .cons (.refl p) (ih hk)

end Program

/-! ## Binding early -/

section Relation
variable (n : String) (a : Int) (t : AddressKind) (own : Layout)

/-- An operand of a unit with the sizes `own`, and the same operand or, if it names `n`, the
address `a` in its place. -/
inductive Operand.BoundEarly (isTarget : Bool) : Operand → Operand → Prop
  | same (o : Operand) : BoundEarly isTarget o o
  | tagged {o : Operand} : o.kind = .label → o.labelName = some n →
      BoundEarly isTarget o { kind := .label, value := .number a, tag := some t }
  | untagged {o : Operand} : o.kind = .label → o.labelName = some n →
      isTarget = true → t = .code → own.isCode a = true →
      BoundEarly isTarget o { kind := .label, value := .number a }

/-- The same for instructions: only the first operand can be where control goes. -/
inductive Instruction.BoundEarly : Instruction → Instruction → Prop
  | bare (op : Opcode) : BoundEarly ⟨op, []⟩ ⟨op, []⟩
  | operands {op : Opcode} {first first' : Operand} {rest rest' : List Operand} :
      Operand.BoundEarly n a t own op.isControlTransfer first first' →
      List.Forall₂ (Operand.BoundEarly n a t own false) rest rest' →
      BoundEarly ⟨op, first :: rest⟩ ⟨op, first' :: rest'⟩

end Relation

/-- `m'` is `m` with any of its operands that name `n` bound early, to the address `a` of the
kind `t`. -/
structure Program.BoundEarly (n : String) (a : Int) (t : AddressKind) (m m' : Program) : Prop where
  rest : m' = { m with instructions := m'.instructions }
  each : List.Forall₂ (Instruction.BoundEarly n a t m.layout) m.instructions m'.instructions

theorem Program.BoundEarly.sameFrame {n : String} {a : Int} {t : AddressKind} {m m' : Program}
    (h : m.BoundEarly n a t m') : SameFrame m m' :=
  ⟨h.rest, h.each.length_eq.symm⟩

/-! ## An operand bound early is encoded as the name -/

section Encoding
variable {n : String} {a : Int} {t : AddressKind} {s : Site} {address? : String → Option Int}

/-- What a function does not tell apart element by element it does not tell apart in lists. -/
theorem map_eq_of_forall₂ {α β : Type} {R : α → α → Prop} {f : α → β} {xs ys : List α}
    (h : List.Forall₂ R xs ys) (each : ∀ {x y}, R x y → f y = f x) : ys.map f = xs.map f := by
  induction h with
  | nil => rfl
  | cons hx _ ih => rw [List.map_cons, List.map_cons, each hx, ih]

/-- A label operand is encoded by the address that it stands for. -/
theorem Bytecode.encodeOperand_of_label {o : Operand} {x : Int} (kind : o.kind = .label)
    (address : labelAddress address? o = .ok x) :
    encodeOperand address? o = (word .labelAddress x).map (labelFlag :: ·) := by
  rw [encodeOperand, kind]
  show encodeLabel address? o = _
  rw [encodeLabel, address]
  show (word .labelAddress x >>= fun b => pure (labelFlag :: b)) = _
  exact bind_pure_comp _ _

theorem Bytecode.labelAddress_of_name {o : Operand} {x : Int} (name : o.labelName = some n)
    (bound : address? n = some x) : labelAddress address? o = .ok x := by
  simp only [labelAddress, name, bound]

theorem Operand.BoundEarly.encode_eq {isTarget : Bool} {o o' : Operand}
    (h : Operand.BoundEarly n a t s.own isTarget o o') (placed : address? n = some (s.place t a)) :
    Bytecode.encodeOperand address? (s.operand isTarget o') =
      Bytecode.encodeOperand address? (s.operand isTarget o) := by
  -- what the name stands for, whatever the site has made of the value beside it
  have named (kind : o.kind = .label) (name : o.labelName = some n) :
      Bytecode.encodeOperand address? (s.operand isTarget o) =
        (Bytecode.word .labelAddress (s.place t a)).map (Bytecode.labelFlag :: ·) :=
    Bytecode.encodeOperand_of_label kind (Bytecode.labelAddress_of_name name placed)
  cases h with
  | same => rfl
  | tagged kind name =>
      rw [named kind name]
      exact Bytecode.encodeOperand_of_label rfl rfl
  | untagged kind name jump code inside =>
      subst jump code
      rw [named kind name]
      have value : s.value true { kind := .label, value := .number a } =
          .number (s.place .code a) := by
        show (if _ then _ else _) = _
        rw [if_pos ⟨rfl, (Layout.isCode_iff ..).mp inside⟩]
        rfl
      refine Bytecode.encodeOperand_of_label rfl ?_
      rw [Bytecode.labelAddress, Site.operand, value]

theorem Bytecode.mapM_encodeOperand_congr {os os' : List Operand}
    (h : List.Forall₂ (Operand.BoundEarly n a t s.own false) os os')
    (placed : address? n = some (s.place t a)) :
    (os'.map (s.operand false)).mapM (encodeOperand address?) =
      (os.map (s.operand false)).mapM (encodeOperand address?) := by
  have bytes := map_eq_of_forall₂ h fun ho => ho.encode_eq placed
  have encoded := congrArg (List.mapM id) bytes
  rw [List.mapM_map, List.mapM_map] at encoded ⊢
  exact encoded

theorem Instruction.BoundEarly.encode_eq {i i' : Instruction}
    (h : Instruction.BoundEarly n a t s.own i i') (placed : address? n = some (s.place t a)) :
    Bytecode.encodeInstruction address? (s.instruction i') =
      Bytecode.encodeInstruction address? (s.instruction i) := by
  cases h with
  | bare => rfl
  | operands ho hos =>
      simp only [Site.instruction_of_operands, Bytecode.encodeInstruction, List.mapM_cons,
        ho.encode_eq placed, Bytecode.mapM_encodeOperand_congr hos placed]

theorem Bytecode.map_encodeInstruction_congr {is is' : List Instruction}
    (h : List.Forall₂ (Instruction.BoundEarly n a t s.own) is is')
    (placed : address? n = some (s.place t a)) :
    (is'.map s.instruction).map (encodeInstruction address?) =
      (is.map s.instruction).map (encodeInstruction address?) := by
  rw [List.map_map, List.map_map]
  exact map_eq_of_forall₂ h fun hi => hi.encode_eq placed

end Encoding

/-! ## Early and late binding agree -/

namespace Program

/-- The units of a row with one of them replaced: the others are at the sites where they were, and
the new one is where the old one was. -/
theorem getElem?_units_set {ps : List Program} {k : Nat} {m m' : Program} (hk : ps[k]? = some m)
    (h : SameFrame m m') (j : Nat) :
    (units (ps.set k m'))[j]? =
      if j = k then some (siteOf ps k m, m') else (units ps)[j]? := by
  have frames := forall₂_set hk h
  rw [getElem?_units, getElem?_units, List.getElem?_set]
  by_cases hj : j = k
  · subst hj
    obtain ⟨hlt, _⟩ := List.getElem?_eq_some_iff.mp hk
    rw [if_pos rfl, if_pos hlt, if_pos rfl, Option.map_some, siteOf_congr frames h]
  · rw [if_neg (Ne.symm hj), if_neg hj]
    cases ps[j]? with
    | none => rfl
    | some p => rw [Option.map_some, Option.map_some, siteOf_congr frames (.refl p)]

/-- Two links of which one has a unit bound early: their instructions are encoded alike, wherever
the name is looked up to be where it belongs. -/
theorem Linked.map_encodeInstruction_eq {ps : List Program} {k : Nat} {m m' q q' : Program}
    {n : String} {a : Int} {t : AddressKind} {address? : String → Option Int}
    (hq : Linked ps q) (hq' : Linked (ps.set k m') q') (hk : ps[k]? = some m)
    (hb : m.BoundEarly n a t m') (placed : address? n = some ((siteOf ps k m).place t a)) :
    q'.instructions.map (Bytecode.encodeInstruction address?) =
      q.instructions.map (Bytecode.encodeInstruction address?) := by
  rw [hq.instructions_eq, hq'.instructions_eq, List.map_flatMap, List.map_flatMap,
    List.flatMap_def, List.flatMap_def]
  congr 1
  refine List.ext_getElem? fun j => ?_
  rw [List.getElem?_map, List.getElem?_map, getElem?_units_set hk hb.sameFrame]
  by_cases hj : j = k
  · subst hj
    rw [if_pos rfl, getElem?_units, hk, Option.map_some, Option.map_some, Option.map_some]
    exact congrArg some (Bytecode.map_encodeInstruction_congr hb.each placed)
  · rw [if_neg hj]

/-- **Binding a label early is binding it late.**  Take a label of one unit that no other unit
tags, and replace any operands of the unit that name it by its address there.  The links then
fail with the same fault, or give two programs of the same bytecode, or of the same fault where
there is none. -/
theorem early_binding_agrees {ps : List Program} {k : Nat} {m m' : Program} {n : String} {a : Int}
    {t : AddressKind} (hk : ps[k]? = some m) (ha : m.labels.get? n = some a)
    (ht : m.classifyLabel? n = some t)
    (only : ∀ j p, j ≠ k → ps[j]? = some p → p.tags.get? n = none)
    (hb : m.BoundEarly n a t m') :
    (∃ e, link ps = .error e ∧ link (ps.set k m') = .error e) ∨
      ∃ q q', link ps = .ok q ∧ link (ps.set k m') = .ok q' ∧
        Bytecode.encode q' = Bytecode.encode q ∧ Blob.ofProgram q' = Blob.ofProgram q := by
  rcases alike_link (forall₂_set hk hb.sameFrame) with fault | ⟨q, q', hq, hq', frame⟩
  · exact Or.inl fault
  · obtain rfl : m.kindOf n a = t :=
      Option.some.inj ((classifyLabel?_of_label ha).symm.trans ht)
    have run := link_eq_ok_iff.mp hq
    have run' := link_eq_ok_iff.mp hq'
    have settled := run.settled hk ha only
    have bytes : Bytecode.encode q' = Bytecode.encode q :=
      Bytecode.encode_congr frame.labels frame.data
        (run.map_encodeInstruction_eq run' hk hb settled.place)
    exact Or.inr ⟨q, q', hq, hq', bytes, Blob.ofProgram_congr bytes frame.layout frame.labels⟩

end Program

/-- `greeting` with the address of its data cell in the place of the cell's name. -/
def Sample.greetingBound : Program :=
  { greeting with
    instructions :=
      [⟨.load, [⟨.register, .name "I", none, none⟩, ⟨.label, .number 2, none, some .data⟩]⟩,
        ⟨.jmp, [⟨.label, .number 0, none, none⟩]⟩] }

namespace Program

/-- Behind the second unit's code the cell is at 4, which one of the two programs says itself and
the other one leaves to its labels. -/
theorem greeting_bound_early :
    ∃ q q', link [Sample.greeting, Sample.clock] = .ok q ∧
      link [Sample.greetingBound, Sample.clock] = .ok q' ∧
      q.instructions[0]? = some ⟨.load,
        [⟨.register, .name "I", none, none⟩, ⟨.label, .absent, some "msg", none⟩]⟩ ∧
      q'.instructions[0]? = some ⟨.load,
        [⟨.register, .name "I", none, none⟩, ⟨.label, .number 4, none, some .data⟩]⟩ ∧
      Blob.ofProgram q' = Blob.ofProgram q := by
  have run := link_eq_ok_iff.mpr <| (Linked.first Sample.greeting).behind (l := Sample.clock)
    (merge_eq_ok_iff.mpr ⟨rfl, by decide, rfl⟩)
  have run' := link_eq_ok_iff.mpr <| (Linked.first Sample.greetingBound).behind (l := Sample.clock)
    (merge_eq_ok_iff.mpr ⟨rfl, by decide, rfl⟩)
  have bound : Sample.greeting.BoundEarly "msg" 2 .data Sample.greetingBound :=
    ⟨rfl, .cons (.operands (.same _) (.cons (.tagged rfl rfl) .nil))
      (.cons (.operands (.same _) .nil) .nil)⟩
  have only : ∀ j p, j ≠ 0 → [Sample.greeting, Sample.clock][j]? = some p →
      p.tags.get? "msg" = none
    | 0, _, h, _ => absurd rfl h
    | 1, _, _, e => Option.some.inj e ▸ rfl
  rcases early_binding_agrees rfl rfl rfl only bound with ⟨_, fault, _⟩ | ⟨q, q', hq, hq', _, blobs⟩
  · exact nomatch run.symm.trans fault
  · obtain rfl := Except.ok.inj (run.symm.trans hq)
    obtain rfl := Except.ok.inj (run'.symm.trans hq')
    exact ⟨_, _, run, run', rfl, rfl, blobs⟩

end Program

end BootLink
