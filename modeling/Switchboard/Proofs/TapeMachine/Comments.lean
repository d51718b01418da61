import Switchboard.Proofs.TapeMachine.History
import Switchboard.Proofs.TapeMachine.Loops
import Switchboard.Proofs.TapeMachine.Operators

namespace Switchboard

open Switchboard.TapeMachine

-- The same fault of a code and of its bare code. An operator is named by its place in either.
inductive TapeFault.Matches (code : List Char) : TapeFault → TapeFault → Prop where
  | pointerUnderflow {position index} (h : StandsAt code index position) :
      Matches code (.pointerUnderflow position) (.pointerUnderflow index)
  | pointerOverflow {last position index} (h : StandsAt code index position) :
      Matches code (.pointerOverflow last position) (.pointerOverflow last index)
  | unbalancedBracket {bracket position index} (h : StandsAt code index position) :
      Matches code (.unbalancedBracket bracket position) (.unbalancedBracket bracket index)

namespace TapeMachine

open Switchboard.Bracket

def OnOperator (machine : TapeMachine) : Prop :=
  ∃ c ∈ operators, machine.code[machine.cursor]? = some c

-- A jump ends on a bracket, and every other operator stays where it is.
theorem OnOperator.operate {machine : TapeMachine} (h : machine.OnOperator) (c : Char) :
    (machine.operate c).OnOperator := by
  unfold TapeMachine.operate
  split
  · unfold moveRight
    cases machine.tape.right? <;> exact h
  · unfold moveLeft
    cases machine.tape.left? <;> exact h
  · exact h
  · exact h
  · exact h
  · unfold read
    cases machine.input <;> exact h
  · unfold enterLoop
    split_ifs
    · exact h
    · cases hplace : closing? machine.code 0 (machine.cursor + 1) with
      | none => exact h
      | some place => exact ⟨']', by decide, getElem?_of_closing?_eq_some hplace⟩
  · unfold repeatLoop
    split_ifs
    · exact h
    · cases hplace : opening? machine.code 0 machine.cursor with
      | none => exact h
      | some place => exact ⟨'[', by decide, getElem?_of_opening?_eq_some hplace⟩
  · exact h

theorem OnOperator.standsAt {machine : TapeMachine} (h : machine.OnOperator) :
    StandsAt machine.code.toList (rank machine.code.toList machine.cursor) machine.cursor := by
  obtain ⟨c, hc, hchar⟩ := h
  exact ⟨⟨c, hc, Array.getElem?_toList.trans hchar⟩, rfl⟩

-- Two machines at the same point of a program, one of which runs it without its comments.
structure Strips (machine stripped : TapeMachine) : Prop where
  code_eq : stripped.code = (bare machine.code.toList).toArray
  cursor_eq : stripped.cursor = rank machine.code.toList machine.cursor
  tape_eq : stripped.tape = machine.tape
  input_eq : stripped.input = machine.input
  output_eq : stripped.output = machine.output
  fault : Option.Rel (TapeFault.Matches machine.code.toList) machine.fault stripped.fault

namespace Strips

variable {machine stripped : TapeMachine}

theorem withTape (h : machine.Strips stripped) (tape : Tape) :
    Strips { machine with tape } { stripped with tape } := { h with tape_eq := rfl }

theorem moveRight (h : machine.Strips stripped) (hon : machine.OnOperator) :
    machine.moveRight.Strips stripped.moveRight := by
  unfold TapeMachine.moveRight
  rw [h.tape_eq]
  cases machine.tape.right? with
  | some tape => exact h.withTape tape
  | none =>
      rw [h.cursor_eq]
      exact { h with fault := .some (.pointerOverflow hon.standsAt) }

theorem moveLeft (h : machine.Strips stripped) (hon : machine.OnOperator) :
    machine.moveLeft.Strips stripped.moveLeft := by
  unfold TapeMachine.moveLeft
  rw [h.tape_eq]
  cases machine.tape.left? with
  | some tape => exact h.withTape tape
  | none =>
      rw [h.cursor_eq]
      exact { h with fault := .some (.pointerUnderflow hon.standsAt) }

theorem increment (h : machine.Strips stripped) :
    machine.increment.Strips stripped.increment := by
  simp only [TapeMachine.increment, h.tape_eq]
  exact h.withTape _

theorem decrement (h : machine.Strips stripped) :
    machine.decrement.Strips stripped.decrement := by
  simp only [TapeMachine.decrement, h.tape_eq]
  exact h.withTape _

theorem print (h : machine.Strips stripped) : machine.print.Strips stripped.print := by
  refine { h with output_eq := ?_ }
  simp only [TapeMachine.print, h.output_eq, h.tape_eq]

theorem read (h : machine.Strips stripped) : machine.read.Strips stripped.read := by
  unfold TapeMachine.read
  rw [h.input_eq, h.tape_eq]
  cases machine.input with
  | nil => exact h
  | cons byte rest => exact { h.withTape (machine.tape.write byte) with input_eq := rfl }

theorem enterLoop (h : machine.Strips stripped)
    (hchar : machine.code[machine.cursor]? = some '[') :
    machine.enterLoop.Strips stripped.enterLoop := by
  have hon : machine.OnOperator := ⟨'[', by decide, hchar⟩
  have hscan := closing?_bare machine.code 0 (machine.cursor + 1)
  rw [rank_toList_operator hchar (by decide), ← h.code_eq, ← h.cursor_eq] at hscan
  unfold TapeMachine.enterLoop
  rw [h.tape_eq, hscan]
  split_ifs
  · exact h
  · cases closing? machine.code 0 (machine.cursor + 1) with
    | some place => exact { h with tape_eq := rfl, cursor_eq := rfl }
    | none =>
        rw [h.cursor_eq]
        exact { h with fault := .some (.unbalancedBracket hon.standsAt) }

theorem repeatLoop (h : machine.Strips stripped)
    (hchar : machine.code[machine.cursor]? = some ']') :
    machine.repeatLoop.Strips stripped.repeatLoop := by
  have hon : machine.OnOperator := ⟨']', by decide, hchar⟩
  have hscan := opening?_bare machine.code 0 machine.cursor
  rw [← h.code_eq, ← h.cursor_eq] at hscan
  unfold TapeMachine.repeatLoop
  rw [h.tape_eq, hscan]
  split_ifs
  · exact h
  · cases opening? machine.code 0 machine.cursor with
    | some place => exact { h with tape_eq := rfl, cursor_eq := rfl }
    | none =>
        rw [h.cursor_eq]
        exact { h with fault := .some (.unbalancedBracket hon.standsAt) }

theorem operate (h : machine.Strips stripped) {c : Char}
    (hchar : machine.code[machine.cursor]? = some c) (hc : c ∈ operators) :
    (machine.operate c).Strips (stripped.operate c) := by
  have hon : machine.OnOperator := ⟨c, hc, hchar⟩
  unfold TapeMachine.operate
  split
  · exact h.moveRight hon
  · exact h.moveLeft hon
  · exact h.increment
  · exact h.decrement
  · exact h.print
  · exact h.read
  · exact h.enterLoop hchar
  · exact h.repeatLoop hchar
  · exact h

-- Behind an operator there is one more of them in front.
theorem advance (h : machine.Strips stripped) (hon : machine.OnOperator) :
    Strips { machine with cursor := machine.cursor + 1 }
      { stripped with cursor := stripped.cursor + 1 } := by
  obtain ⟨c, hc, hchar⟩ := hon
  refine { h with cursor_eq := ?_ }
  rw [h.cursor_eq]
  exact (rank_toList_operator hchar hc).symm

theorem getElem?_code (h : machine.Strips stripped) {c : Char}
    (hchar : machine.code[machine.cursor]? = some c) (hc : c ∈ operators) :
    stripped.code[stripped.cursor]? = some c := by
  rw [h.code_eq, h.cursor_eq]
  exact getElem?_toArray_bare hchar hc

theorem getElem?_code_end (h : machine.Strips stripped)
    (hchar : machine.code[machine.cursor]? = none) :
    stripped.code[stripped.cursor]? = none := by
  rw [h.code_eq, h.cursor_eq, List.getElem?_toArray]
  exact getElem?_bare_end (Array.getElem?_toList.trans hchar)

theorem fault_eq_none (h : machine.Strips stripped) (hclean : machine.fault = none) :
    stripped.fault = none := by
  have hrel := h.fault
  rw [hclean] at hrel
  generalize stripped.fault = other at hrel ⊢
  cases hrel
  rfl

theorem exists_fault (h : machine.Strips stripped) {fault : TapeFault}
    (hfault : machine.fault = some fault) :
    ∃ named, stripped.fault = some named ∧ fault.Matches machine.code.toList named := by
  have hrel := h.fault
  rw [hfault] at hrel
  generalize stripped.fault = other at hrel ⊢
  cases hrel with
  | some hmatches => exact ⟨_, rfl, hmatches⟩

-- The machine goes on over comments, while the other one waits for it at the next operator or at
-- the end. The induction is on the number of characters that are left.
theorem exists_ahead (h : machine.Strips stripped) (hclean : machine.fault = none) :
    ∃ count next, Leads count machine next ∧ next.code = machine.code ∧ next.Strips stripped ∧
      next.fault = none ∧ (next.code[next.cursor]? = none ∨ next.OnOperator) := by
  generalize hleft : machine.code.size - machine.cursor = left
  induction left generalizing machine with
  | zero =>
      refine ⟨0, machine, Leads.refl machine, rfl, h, hclean, .inl ?_⟩
      exact Array.getElem?_eq_none (by omega)
  | succ left ih =>
      have hlt : machine.cursor < machine.code.size := by omega
      obtain ⟨c, hchar⟩ : ∃ c, machine.code[machine.cursor]? = some c :=
        ⟨_, Array.getElem?_eq_getElem hlt⟩
      by_cases hc : c ∈ operators
      · exact ⟨0, machine, Leads.refl machine, rfl, h, hclean, .inr ⟨c, hc, hchar⟩⟩
      · have hoperate := machine.operate_of_notMem hc
        have hstep : Leads 1 machine { machine with cursor := machine.cursor + 1 } := by
          have hleads := Leads.step hchar (by rw [hoperate]; exact hclean)
          rwa [hoperate] at hleads
        have hnext : Strips { machine with cursor := machine.cursor + 1 } stripped :=
          { h with cursor_eq := h.cursor_eq.trans (rank_toList_comment hchar hc).symm }
        obtain ⟨count, next, hleads, hcode, hahead⟩ := ih hnext hclean (by simp only; omega)
        exact ⟨count + 1, next, hstep.trans hleads, hcode, hahead⟩

end Strips

-- The same answer about a code and about its bare code.
inductive SameOutcome {α : Type} (code : List Char) :
    Option (Except TapeFault α) → Option (Except TapeFault α) → Prop where
  | unended : SameOutcome code none none
  | finished {result : α} : SameOutcome code (some (.ok result)) (some (.ok result))
  | stopped {fault named : TapeFault} (h : fault.Matches code named) :
      SameOutcome code (some (.error fault)) (some (.error named))

-- The machine that is left behind shows the same as well, but for its place in the code.
structure SameAnswer {α : Type} (code : List Char)
    (answer other : Option (Except TapeFault α) × TapeMachine) : Prop where
  outcome : SameOutcome code answer.1 other.1
  tape_eq : other.2.tape = answer.2.tape
  input_eq : other.2.input = answer.2.input
  output_eq : other.2.output = answer.2.output

theorem SameOutcome.eq_none_iff {α : Type} {code : List Char}
    {outcome other : Option (Except TapeFault α)} (h : SameOutcome code outcome other) :
    outcome = none ↔ other = none := by
  cases h <;> simp

theorem SameAnswer.handOver {code : List Char}
    {walked other : Option (Except TapeFault Unit) × TapeMachine}
    (h : SameAnswer code walked other) : SameAnswer code (handOver walked) (handOver other) := by
  obtain ⟨answer, machine⟩ := walked
  obtain ⟨further, stripped⟩ := other
  obtain ⟨houtcome, htape, hinput, houtput⟩ := h
  cases houtcome with
  | unended => exact ⟨.unended, htape, hinput, houtput⟩
  | @finished result =>
      cases result
      have hbytes : stripped.output = machine.output := houtput
      refine ⟨?_, htape, hinput, rfl⟩
      simp only [TapeMachine.handOver, hbytes]
      exact .finished
  | stopped hmatches => exact ⟨.stopped hmatches, htape, hinput, houtput⟩

section Walk

variable {machine stripped : TapeMachine}

theorem Strips.sameAnswer (h : machine.Strips stripped)
    {outcome other : Option (Except TapeFault Unit)}
    (houtcome : SameOutcome machine.code.toList outcome other) :
    SameAnswer machine.code.toList (outcome, machine) (other, stripped) :=
  ⟨houtcome, h.tape_eq, h.input_eq, h.output_eq⟩

-- What the bare code does in some steps the code does in at least as many. The induction is on the
-- steps of the bare code, and the code catches up with it before each of them.
theorem Strips.exists_walk (h : machine.Strips stripped) (hclean : machine.fault = none)
    (fuel : Nat) :
    ∃ more, fuel ≤ more ∧
      SameAnswer machine.code.toList (machine.walk more) (stripped.walk fuel) := by
  induction fuel generalizing machine stripped with
  | zero => exact ⟨0, le_rfl, h.sameAnswer .unended⟩
  | succ fuel ih =>
      obtain ⟨count, next, hleads, hcode, hnext, hnextClean, hahead⟩ := h.exists_ahead hclean
      rw [← hcode]
      obtain hend | ⟨c, hc, hchar⟩ := hahead
      · refine ⟨fuel + 1 + count, by omega, ?_⟩
        rw [hleads]
        simp only [walk, hend, hnext.getElem?_code_end hend]
        exact hnext.sameAnswer .finished
      · have hdone := hnext.operate hchar hc
        have hdoneCode : (next.operate c).code = next.code := (next.keeps_operate c).code_eq
        have hother := hnext.getElem?_code hchar hc
        rw [← hdoneCode]
        cases hfault : (next.operate c).fault with
        | none =>
            have hon : (next.operate c).OnOperator := OnOperator.operate ⟨c, hc, hchar⟩ c
            obtain ⟨more, hmore, hsame⟩ := ih (hdone.advance hon) hfault
            refine ⟨more + 1 + count, by omega, ?_⟩
            rw [hleads, Leads.step hchar hfault, Leads.step hother (hdone.fault_eq_none hfault)]
            exact hsame
        | some fault =>
            obtain ⟨named, hnamed, hmatches⟩ := hdone.exists_fault hfault
            refine ⟨fuel + 1 + count, by omega, ?_⟩
            rw [hleads]
            simp only [walk, hchar, hfault, hother, hnamed]
            exact ⟨.stopped hmatches, hdone.tape_eq, hdone.input_eq, hdone.output_eq⟩

-- So each of them ends where the other one does.
theorem Strips.walk_ends_iff (h : machine.Strips stripped) (hclean : machine.fault = none) :
    (∃ fuel, (machine.walk fuel).1 ≠ none) ↔ ∃ fuel, (stripped.walk fuel).1 ≠ none := by
  constructor
  · rintro ⟨fuel, hends⟩
    obtain ⟨more, hmore, hsame⟩ := h.exists_walk hclean fuel
    rw [walk_of_le hends hmore] at hsame
    exact ⟨fuel, hsame.outcome.eq_none_iff.not.mp hends⟩
  · rintro ⟨fuel, hends⟩
    obtain ⟨more, -, hsame⟩ := h.exists_walk hclean fuel
    exact ⟨more, hsame.outcome.eq_none_iff.not.mpr hends⟩

theorem Strips.walk_same (h : machine.Strips stripped) (hclean : machine.fault = none)
    {fuel other : Nat} (hends : (machine.walk fuel).1 ≠ none)
    (hother : (stripped.walk other).1 ≠ none) :
    SameAnswer machine.code.toList (machine.walk fuel) (stripped.walk other) := by
  obtain ⟨more, -, hsame⟩ := h.exists_walk hclean other
  have hmore := hsame.outcome.eq_none_iff.not.mpr hother
  rwa [walk_eq_of_ends hends hmore]

end Walk

theorem strips_loaded (machine : TapeMachine) (code : String) :
    (machine.loaded code).Strips (machine.loaded (String.ofList (bare code.toList))) where
  code_eq := by simp [loaded]
  cursor_eq := rfl
  tape_eq := rfl
  input_eq := rfl
  output_eq := rfl
  fault := .none

-- Comments make no difference to a program, whatever characters they are made of and wherever they
-- stand, also to one that is refused. It ends when its bare code ends, and then with the same bytes
-- or the same fault, which names the same operator, and it leaves the same tape and queues.
theorem run_ignores_comments (machine : TapeMachine) (code : String) (journal listener : Journal) :
    let answer fuel := ((run fuel machine code).run journal).1
    let further fuel := ((run fuel machine (String.ofList (bare code.toList))).run listener).1
    ((∃ fuel, (answer fuel).1 ≠ none) ↔ ∃ fuel, (further fuel).1 ≠ none) ∧
    ∀ fuel other, (answer fuel).1 ≠ none → (further other).1 ≠ none →
      SameAnswer code.toList (answer fuel) (further other) := by
  intro answer further
  have hbare := unmatched?_bare code.toList
  rw [← String.toList_ofList (l := bare code.toList)] at hbare
  cases hcode : unmatched? code.toList with
  | some found =>
      obtain ⟨bracket, position⟩ := found
      rw [hcode] at hbare
      have hanswer : ∀ fuel, answer fuel =
          (some (.error (.unbalancedBracket bracket position)), machine.loaded "") :=
        fun fuel => run_refused fuel machine journal hcode
      have hfurther : ∀ fuel, further fuel =
          (some (.error (.unbalancedBracket bracket (rank code.toList position))),
            machine.loaded "") :=
        fun fuel => run_refused fuel machine listener hbare
      refine ⟨by simp [hanswer, hfurther], fun fuel other _ _ => ?_⟩
      rw [hanswer, hfurther]
      obtain ⟨hget, hbracket⟩ := getElem?_of_unmatched? hcode
      have hoperator : bracket ∈ operators := by
        obtain rfl | rfl := hbracket <;> decide
      exact ⟨.stopped (.unbalancedBracket ⟨⟨bracket, hoperator, hget⟩, rfl⟩), rfl, rfl, rfl⟩
  | none =>
      rw [hcode] at hbare
      have hstrips := strips_loaded machine code
      have hanswer : ∀ fuel, answer fuel = handOver ((machine.loaded code).walk fuel) :=
        fun fuel => run_outcome fuel machine journal hcode
      have hfurther : ∀ fuel, further fuel =
          handOver ((machine.loaded (String.ofList (bare code.toList))).walk fuel) :=
        fun fuel => run_outcome fuel machine listener hbare
      simp only [hanswer, hfurther, ne_eq, handOver_eq_none_iff]
      refine ⟨hstrips.walk_ends_iff rfl, fun fuel other hends hother => ?_⟩
      exact (hstrips.walk_same rfl hends hother).handOver

-- The second operator moves off the only cell, and each run names it by its own place.
theorem run_ignores_comments_overflow :
    ∃ machine, ofLength 1 = .ok machine ∧
      let answer := ((run 11 (machine.pushInput [7]) "add 1, go > on").run .nothing).1
      let further := ((run 2 (machine.pushInput [7]) ",>").run .nothing).1
      answer.1 = some (.error (.pointerOverflow 0 10)) ∧
      further.1 = some (.error (.pointerOverflow 0 1)) ∧
      SameAnswer "add 1, go > on".toList answer further := by
  refine ⟨_, rfl, ?_⟩
  intro answer further
  have hbare : String.ofList (bare "add 1, go > on".toList) = ",>" := by decide
  have hanswer : answer.1 = some (.error (.pointerOverflow 0 10)) := by
    rw [show answer = _ from run_outcome 11 _ .nothing (by decide)]
    decide +kernel
  have hfurther : further.1 = some (.error (.pointerOverflow 0 1)) := by
    rw [show further = _ from run_outcome 2 _ .nothing (by decide)]
    decide +kernel
  obtain ⟨-, hsame⟩ := run_ignores_comments (pushInput ⟨.blank 1, #[], 0, [], #[], none⟩ [7])
    "add 1, go > on" .nothing .nothing
  rw [hbare] at hsame
  exact ⟨hanswer, hfurther, hsame 11 2 (by rw [hanswer]; simp) (by rw [hfurther]; simp)⟩

end TapeMachine

end Switchboard
