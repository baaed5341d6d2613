/-
# `BootLink.Proofs.Link.Code` — instructions and data of a whole link

For units `ps` that link to `q`:

    q.instructions   the instructions of the units, one after the other, each at its unit's site
    q.data           the data cells of the units, one after the other, each at its unit's site

and an instruction at its site is the one that was there, with another value in those operands
that are addresses: the address, placed.  `link_relocates_operands` is the statement for
instructions, and says besides that an operand that refers into its own unit refers, in the
whole, to the copy of the same instruction or data cell.

An operand goes through one library step and through a primary step for every later unit.  The
two steps are given by different rules, and both are `Operand.moveTarget` with a function of the
tag and the address; so they compose (`moveTarget_moveTarget`), and what is left is arithmetic on
one address.
-/
import BootLink.Proofs.Link.Run

namespace BootLink

/-! ## Moving the address of an operand -/

namespace Operand

theorem target?_eq_some_iff {o : Operand} {a : Int} :
    o.target? = some a ↔ o.kind = .label ∧ o.labelName = none ∧ o.value = .number a := by
  unfold target?
  split
  · next hk hn hv => simp [hk, hn, hv]
  · next other =>
      refine ⟨nofun, ?_⟩
      rintro ⟨hk, hn, hv⟩
      exact absurd hv (other a hk hn)

theorem moveTarget_of_target {o : Operand} {a : Int} (h : o.target? = some a)
    (move : Option AddressKind → Int → Int) :
    o.moveTarget move = { o with value := .number (move o.tag a) } := by
  rw [moveTarget, h]

theorem moveTarget_of_no_target {o : Operand} (h : o.target? = none)
    (move : Option AddressKind → Int → Int) : o.moveTarget move = o := by
  rw [moveTarget, h]

theorem target?_moveTarget {o : Operand} {a : Int} (h : o.target? = some a)
    (move : Option AddressKind → Int → Int) :
    (o.moveTarget move).target? = some (move o.tag a) := by
  obtain ⟨hk, hn, _⟩ := target?_eq_some_iff.mp h
  rw [moveTarget_of_target h, target?_eq_some_iff]
  exact ⟨hk, hn, rfl⟩

theorem moveTarget_moveTarget (f g : Option AddressKind → Int → Int) (o : Operand) :
    (o.moveTarget f).moveTarget g = o.moveTarget fun t a => g t (f t a) := by
  cases h : o.target? with
  | none => rw [moveTarget_of_no_target h, moveTarget_of_no_target h, moveTarget_of_no_target h]
  | some a =>
      rw [moveTarget_of_target (target?_moveTarget h f), moveTarget_of_target h,
        moveTarget_of_target h]

theorem moveTarget_id (o : Operand) : o.moveTarget (fun _ a => a) = o := by
  cases h : o.target? with
  | none => exact moveTarget_of_no_target h _
  | some a =>
      rw [moveTarget_of_target h, ← (target?_eq_some_iff.mp h).2.2]

end Operand

/-! ## Operands and instructions at a site -/

theorem Layout.impliedKind_eq (l : Layout) (isTarget : Bool) (a : Int) :
    l.impliedKind isTarget a =
      if isTarget = true ∧ 0 ≤ a ∧ a < l.code then .code else .absolute := by
  simp only [impliedKind, Bool.and_eq_true, isCode_iff]

namespace Site

/-- What an operand's address means: its tag, or what it implies. -/
def kindOf (s : Site) (isTarget : Bool) (tag : Option AddressKind) (a : Int) : AddressKind :=
  tag.getD (s.own.impliedKind isTarget a)

theorem operand_eq_moveTarget (s : Site) (isTarget : Bool) (o : Operand) :
    s.operand isTarget o = o.moveTarget fun t a => s.place (s.kindOf isTarget t a) a := by
  obtain ⟨kind, value, name, tag⟩ := o
  cases kind with
  | label =>
      cases name with
      | some n => rfl
      | none =>
          cases value with
          | absent => rfl
          | name x => rfl
          | number v =>
              cases tag with
              | some k => rfl
              | none =>
                  show Operand.mk _ (if _ then _ else _) _ _ =
                    Operand.mk _ (.number (s.place (s.own.impliedKind isTarget v) v)) _ _
                  rw [Layout.impliedKind_eq]
                  split <;> rfl
  | immediate | register | memory | segment | foreign _ => rfl

/-- The primary rule, which asks only for the tag, carries an operand on to the grown site: an
untagged address is code or absolute, and neither depends on what comes later. -/
theorem rebasePrimary_operand (s : Site) (p : Placement) (isTarget : Bool) (o : Operand) :
    (s.operand isTarget o).rebasePrimary p = (s.grow p.library).operand isTarget o := by
  rw [operand_eq_moveTarget, operand_eq_moveTarget, Operand.rebasePrimary,
    Operand.moveTarget_moveTarget]
  congr 1
  funext t a
  cases t with
  | some k => exact primaryAddress_place s p k a
  | none =>
      show s.place (s.own.impliedKind isTarget a) a =
        (s.grow p.library).place (s.own.impliedKind isTarget a) a
      rw [Layout.impliedKind_eq]
      split <;> rfl

theorem rebaseLibrary_operand (p : Placement) (isTarget : Bool) (o : Operand) :
    o.rebaseLibrary p isTarget = (ofLibrary p).operand isTarget o := by
  rw [operand_eq_moveTarget, Operand.rebaseLibrary]
  congr 1
  funext t a
  exact libraryAddress_eq_place p _ a

theorem instruction_of_operands {s : Site} {op : Opcode} {first : Operand} {rest : List Operand} :
    s.instruction ⟨op, first :: rest⟩ =
      ⟨op, s.operand op.isControlTransfer first :: rest.map (s.operand false)⟩ := by
  have others : rest.mapIdx (fun _ o => s.operand false o) = rest.map (s.operand false) :=
    List.mapIdx_eq_iff.mpr fun j => by simp
  simp [instruction, List.mapIdx_cons, others]

theorem rebasePrimary_instruction (s : Site) (p : Placement) (i : Instruction) :
    (s.instruction i).rebasePrimary p = (s.grow p.library).instruction i := by
  obtain ⟨op, operands⟩ := i
  cases operands with
  | nil => rfl
  | cons first rest =>
      simp only [instruction_of_operands, Instruction.rebasePrimary, List.map_cons, List.map_map,
        Function.comp_def, rebasePrimary_operand]

theorem rebaseLibrary_instruction (p : Placement) (i : Instruction) :
    i.rebaseLibrary p = (ofLibrary p).instruction i := by
  obtain ⟨op, operands⟩ := i
  cases operands with
  | nil => rfl
  | cons first rest =>
      simp only [instruction_of_operands, Instruction.rebaseLibrary, rebaseLibrary_operand]

theorem rebase_datum (p : Placement) (d : DataItem) :
    d.rebase p.primary.data = (ofLibrary p).datum d := by
  simp only [DataItem.rebase, datum, ofLibrary, Int.add_comm]

end Site

namespace Program

/-! ## The first unit -/

theorem operand_first (p : Program) (isTarget : Bool) :
    (siteOf [p] 0 p).operand isTarget = id := by
  funext o
  rw [Site.operand_eq_moveTarget]
  simp only [place_first]
  exact o.moveTarget_id

theorem instruction_first (p : Program) : (siteOf [p] 0 p).instruction = id := by
  funext i
  obtain ⟨op, operands⟩ := i
  cases operands with
  | nil => rfl
  | cons first rest => simp [Site.instruction_of_operands, operand_first]

theorem datum_first (p : Program) : (siteOf [p] 0 p).datum = id := by
  funext d
  simp [siteOf_first, Site.datum]

/-! ## The whole link -/

theorem units_first (p : Program) : units [p] = [(siteOf [p] 0 p, p)] := rfl

theorem Linked.instructions_eq {ps : List Program} {q : Program} (h : Linked ps q) :
    q.instructions = (units ps).flatMap fun u => u.2.instructions.map u.1.instruction := by
  induction h with
  | first p => simp [units_first, instruction_first]
  | @behind ps q l r hq hm ih =>
      rw [instructions_merge hm, units_snoc hq, List.flatMap_append, ih, List.map_flatMap,
        List.flatMap_map]
      simp only [List.map_map, Function.comp_def, Site.rebasePrimary_instruction,
        Site.rebaseLibrary_instruction, List.flatMap_singleton]
      rfl

theorem Linked.data_eq {ps : List Program} {q : Program} (h : Linked ps q) :
    q.data = (units ps).flatMap fun u => u.2.data.map u.1.datum := by
  induction h with
  | first p => simp [units_first, datum_first]
  | @behind ps q l r hq hm ih =>
      rw [data_merge hm, units_snoc hq, List.flatMap_append, ih, List.flatMap_map]
      have library : l.data.map (·.rebase q.layout.data) =
          l.data.map (Site.ofLibrary (placement q l)).datum :=
        List.map_congr_left fun d _ => Site.rebase_datum (placement q l) d
      rw [library, List.flatMap_singleton]
      rfl

/-! ## Place by place

The block of a unit in a concatenation starts where the blocks before it end. -/

theorem getElem?_flatMap_block {α β : Type} {f : α → List β} :
    ∀ {l : List α} {k i : Nat} {x : α}, l[k]? = some x → i < (f x).length →
      (l.flatMap f)[((l.take k).flatMap f).length + i]? = (f x)[i]?
  | [], _, _, _, hk, _ => nomatch hk
  | y :: l, 0, i, x, hk, hi => by
      obtain rfl : y = x := Option.some.inj hk
      simp [List.getElem?_append_left hi]
  | y :: l, k + 1, i, x, hk, hi => by
      have ih := getElem?_flatMap_block (l := l) (f := f) (k := k) hk hi
      rw [List.flatMap_cons, List.take_succ_cons, List.flatMap_cons, List.length_append,
        Nat.add_assoc, List.getElem?_append_right (Nat.le_add_right _ _),
        Nat.add_sub_cancel_left]
      exact ih

variable {ps : List Program} {q m : Program} {k : Nat}

/-- The same for the units of a link: the blocks before a unit have the size that the units before
it have together, `size` being one of the two parts of a layout. -/
theorem getElem?_flatMap_units {β : Type} {f : Site × Program → List β} (size : Layout → Nat)
    (zero : size ⟨0, 0⟩ = 0) (add : ∀ l l', size (l + l') = size l + size l')
    (length : ∀ u, (f u).length = size u.2.layout) (hk : ps[k]? = some m) {i : Nat}
    (hi : i < size m.layout) :
    ((units ps).flatMap f)[size (extent (ps.take k)) + i]? = (f (siteOf ps k m, m))[i]? := by
  have together (us : List (Site × Program)) :
      (us.flatMap f).length = size (extent (us.map Prod.snd)) := by
    induction us with
    | nil => exact zero.symm
    | cons u us ih =>
        rw [List.flatMap_cons, List.length_append, ih, length, List.map_cons, extent, add]
  have unit : (units ps)[k]? = some (siteOf ps k m, m) := by rw [getElem?_units, hk]; rfl
  have block := getElem?_flatMap_block (f := f) unit ((length (siteOf ps k m, m)).symm ▸ hi)
  rw [together, List.map_take, map_snd_units] at block
  exact block

/-- The instruction `i` of the unit `k` stands at `(extent (ps.take k)).code + i`. -/
theorem Linked.getElem?_instructions (h : Linked ps q) (hk : ps[k]? = some m) {i : Nat}
    (hi : i < m.instructions.length) :
    q.instructions[(extent (ps.take k)).code + i]? =
      m.instructions[i]?.map (siteOf ps k m).instruction := by
  rw [h.instructions_eq,
    getElem?_flatMap_units Layout.code rfl Layout.code_add (fun _ => List.length_map _) hk hi,
    List.getElem?_map]

/-- The cell `i` of the unit `k` stands at `(extent (ps.take k)).data + i`. -/
theorem Linked.getElem?_data (h : Linked ps q) (hk : ps[k]? = some m) {i : Nat}
    (hi : i < m.data.length) :
    q.data[(extent (ps.take k)).data + i]? = m.data[i]?.map (siteOf ps k m).datum := by
  rw [h.data_eq,
    getElem?_flatMap_units Layout.data rfl Layout.data_add (fun _ => List.length_map _) hk hi,
    List.getElem?_map]

end Program

/-! ## What an address denotes -/

/-- What stands at an address of a program. -/
inductive Content
  | instruction (i : Instruction)
  | datum (d : DataItem)
  deriving DecidableEq, Repr

/-- What stands at an address, if it lies in the program. -/
def Program.content? (p : Program) (a : Int) : Option Content :=
  match p.layout.kindOf a with
  | .code => p.instructions[a.toNat]?.map .instruction
  | .data => p.data[(a - p.layout.code).toNat]?.map .datum
  | .absolute | .unresolved => none

/-- The copy, in the whole, of what stands in the unit. -/
def Site.content (s : Site) : Content → Content
  | .instruction i => .instruction (s.instruction i)
  | .datum d => .datum (s.datum d)

/-- An operand that refers into its own unit: to its code by a code address, tagged or implied,
or to its data by a data address. -/
def Operand.RefersInto (o : Operand) (own : Layout) (isTarget : Bool) (v : Int) : Prop :=
  o.target? = some v ∧
    ((o.tag = some .code ∨ o.tag = none ∧ isTarget = true) ∧ 0 ≤ v ∧ v < own.code ∨
      o.tag = some .data ∧ own.code ≤ v ∧ v < own.code + own.data)

/-- The kind by which a reference is placed is the part of the unit that it lies in. -/
theorem Site.target?_of_refersInto (s : Site) {o : Operand} {isTarget : Bool} {v : Int}
    (hr : o.RefersInto s.own isTarget v) :
    s.own.kindOf v ≠ .absolute ∧
      (s.operand isTarget o).target? = some (s.place (s.own.kindOf v) v) := by
  obtain ⟨target, range⟩ := hr
  rw [operand_eq_moveTarget, Operand.target?_moveTarget target, kindOf]
  rcases range with ⟨tag, range⟩ | ⟨tag, range⟩
  · rw [Layout.kindOf_eq_code_iff.mpr range]
    refine ⟨nofun, ?_⟩
    rcases tag with tag | ⟨tag, jump⟩
    · rw [tag]
      rfl
    · rw [tag, Option.getD_none, Layout.impliedKind_eq, if_pos ⟨jump, range⟩]
  · rw [Layout.kindOf_eq_data_iff.mpr range, tag]
    exact ⟨nofun, rfl⟩

namespace Program

variable {ps : List Program} {q m : Program} {k : Nat}

/-- **An address inside a unit denotes, placed in the whole, the copy of what it denoted.** -/
theorem Linked.content?_place (h : Linked ps q) (hk : ps[k]? = some m) {a : Int}
    (inside : m.layout.kindOf a ≠ .absolute) :
    ∃ c, m.content? a = some c ∧
      q.content? ((siteOf ps k m).place (m.layout.kindOf a) a) =
        some ((siteOf ps k m).content c) := by
  have kind := kindOf_place hk inside
  rw [← h.layout_eq] at kind
  cases t : m.layout.kindOf a with
  | code =>
      rw [t] at kind
      obtain ⟨low, high⟩ := Layout.kindOf_eq_code_iff.mp t
      have hi : a.toNat < m.instructions.length := by
        show a.toNat < m.layout.code
        omega
      have index : ((siteOf ps k m).place .code a).toNat =
          (extent (ps.take k)).code + a.toNat := by
        simp only [Site.place, siteOf]
        omega
      refine ⟨.instruction m.instructions[a.toNat], ?_, ?_⟩
      · simp only [content?, t, List.getElem?_eq_getElem hi, Option.map_some]
      · simp only [content?, kind, index, h.getElem?_instructions hk hi,
          List.getElem?_eq_getElem hi, Option.map_some, Site.content]
  | data =>
      rw [t] at kind
      obtain ⟨low, high⟩ := Layout.kindOf_eq_data_iff.mp t
      have hi : (a - m.layout.code).toNat < m.data.length := by
        show _ < m.layout.data
        omega
      have index : ((siteOf ps k m).place .data a - q.layout.code).toNat =
          (extent (ps.take k)).data + (a - m.layout.code).toNat := by
        simp only [Site.place, siteOf, h.layout_eq]
        omega
      refine ⟨.datum m.data[(a - m.layout.code).toNat], ?_, ?_⟩
      · simp only [content?, t, List.getElem?_eq_getElem hi, Option.map_some]
      · simp only [content?, kind, index, h.getElem?_data hk hi,
          List.getElem?_eq_getElem hi, Option.map_some, Site.content]
  | absolute => exact absurd t inside
  | unresolved => exact absurd t Layout.kindOf_ne_unresolved

/-- **Instructions and operands of a whole link.**  The instructions are those of the units, one
after the other, and nothing of them differs but the values of their operands, which are the ones
that the site of the unit gives.  A reference into its own unit denotes the copy of what it
denoted there. -/
theorem link_relocates_operands (h : link ps = .ok q) :
    q.instructions = (units ps).flatMap (fun u => u.2.instructions.map u.1.instruction) ∧
    q.instructions.length = (extent ps).code ∧
    ∀ k m, ps[k]? = some m → ∀ i instr, m.instructions[i]? = some instr →
      ∃ instr', q.instructions[(extent (ps.take k)).code + i]? = some instr' ∧
        instr'.opcode = instr.opcode ∧
        instr'.operands.length = instr.operands.length ∧
        ∀ j o, instr.operands[j]? = some o →
          let isTarget := instr.opcode.isControlTransfer && j == 0
          ∃ o', instr'.operands[j]? = some o' ∧
            o'.kind = o.kind ∧ o'.labelName = o.labelName ∧ o'.tag = o.tag ∧
            o'.value = (siteOf ps k m).value isTarget o ∧
            ∀ v, o.RefersInto m.layout isTarget v →
              ∃ v' c, o'.target? = some v' ∧ m.content? v = some c ∧
                q.content? v' = some ((siteOf ps k m).content c) := by
  have run := link_eq_ok_iff.mp h
  refine ⟨run.instructions_eq, congrArg Layout.code run.layout_eq, ?_⟩
  intro k m hk i instr hi
  obtain ⟨hlt, _⟩ := List.getElem?_eq_some_iff.mp hi
  have place := run.getElem?_instructions hk hlt
  rw [hi] at place
  refine ⟨_, place, rfl, by simp [Site.instruction], ?_⟩
  intro j o hj
  refine ⟨(siteOf ps k m).operand (instr.opcode.isControlTransfer && j == 0) o,
    by simp [Site.instruction, hj], rfl, rfl, rfl, rfl, ?_⟩
  intro v hv
  obtain ⟨inside, target⟩ := (siteOf ps k m).target?_of_refersInto hv
  obtain ⟨c, here, there⟩ := run.content?_place hk inside
  exact ⟨_, c, target, here, there⟩

/-- The second unit's data operand, an address of 2 there, is 6 behind five instructions and one
data cell, where the copy of the cell stands. -/
theorem clock_operand_relocated :
    ∃ q, link [Sample.greeting, Sample.clock, Sample.printer] = .ok q ∧
      ∃ i o, q.instructions[3]? = some i ∧ i.operands[1]? = some o ∧ o.value = .number 6 ∧
        q.content? 6 = some (.datum ⟨1, .number 7⟩) := by
  have run := link_eq_ok_iff.mpr Sample.linked_units
  obtain ⟨_, _, each⟩ := link_relocates_operands run
  obtain ⟨i, hi, _, _, operands⟩ := each 1 Sample.clock rfl 1 _ rfl
  obtain ⟨o, ho, _, _, _, value, refers⟩ := operands 1 _ rfl
  obtain ⟨v, c, target, here, there⟩ := refers 2 ⟨rfl, Or.inr ⟨rfl, by decide, by decide⟩⟩
  obtain ⟨_, _, value'⟩ := Operand.target?_eq_some_iff.mp target
  obtain rfl : v = 6 := Value.number.inj (value'.symm.trans value)
  obtain rfl : c = .datum ⟨0, .number 7⟩ := Option.some.inj (here.symm.trans rfl)
  exact ⟨_, run, i, o, hi, ho, value, there⟩

end Program

end BootLink
