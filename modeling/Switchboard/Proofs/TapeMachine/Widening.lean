import Switchboard.Proofs.TapeMachine.History

namespace Switchboard

namespace Tape

-- The same strip with more blank cells behind it.
structure Widens (spare : Nat) (tape wider : Tape) : Prop where
  head_eq : wider.head = tape.head
  bytes_eq : wider.bytes = tape.bytes ++ List.replicate spare 0

namespace Widens

variable {spare : Nat} {tape wider next : Tape}

theorem size_eq (h : tape.Widens spare wider) : wider.size = tape.size + spare := by
  have hlength := congrArg List.length h.bytes_eq
  rwa [List.length_append, List.length_replicate] at hlength

theorem cleared (spare : Nat) (hsize : wider.size = tape.size + spare) :
    tape.cleared.Widens spare wider.cleared where
  head_eq := rfl
  bytes_eq := by
    rw [bytes_cleared, bytes_cleared, hsize, List.replicate_append_replicate]

-- Every cell of the shorter strip is where it was.
theorem cell?_of_lt (h : tape.Widens spare wider) {index : Nat} (hindex : index < tape.size) :
    wider.cell? index = tape.cell? index := by
  rw [← length_bytes] at hindex
  rw [cell?_eq_getElem?_bytes, cell?_eq_getElem?_bytes, h.bytes_eq,
    List.getElem?_append_left hindex]

theorem cell?_of_le (h : tape.Widens spare wider) {index : Nat} (hindex : tape.size ≤ index)
    (hlt : index < tape.size + spare) : wider.cell? index = some 0 := by
  rw [← length_bytes] at hindex hlt
  have hspare : index - tape.bytes.length < spare := by omega
  rw [cell?_eq_getElem?_bytes, h.bytes_eq, List.getElem?_append_right hindex,
    List.getElem?_replicate_of_lt hspare]

theorem current_eq (h : tape.Widens spare wider) : wider.current = tape.current := by
  have hwider := wider.getElem?_bytes_head
  rw [h.head_eq, ← cell?_eq_getElem?_bytes, h.cell?_of_lt tape.head_lt, cell?_eq_getElem?_bytes,
    tape.getElem?_bytes_head] at hwider
  exact (Option.some.inj hwider).symm

theorem write (h : tape.Widens spare wider) (value : UInt8) :
    (tape.write value).Widens spare (wider.write value) where
  head_eq := h.head_eq
  bytes_eq := by
    rw [bytes_write, bytes_write, h.bytes_eq, h.head_eq,
      List.set_append_left _ _ tape.head_lt_length]

theorem right? (h : tape.Widens spare wider) (hnext : tape.right? = some next) :
    ∃ further, wider.right? = some further ∧ next.Widens spare further := by
  have hsize := h.size_eq
  simp only [Tape.size] at hsize
  unfold Tape.right? at hnext ⊢
  split_ifs at hnext with hroom
  obtain rfl := Option.some.inj hnext
  have hwider : wider.head + 1 < wider.cells.size := by
    rw [h.head_eq, hsize]
    omega
  rw [dif_pos hwider]
  exact ⟨_, rfl, congrArg (· + 1) h.head_eq, h.bytes_eq⟩

-- Both strips begin at the same cell.
theorem left? (h : tape.Widens spare wider) :
    tape.left? = none ∧ wider.left? = none ∨
      ∃ next further, tape.left? = some next ∧ wider.left? = some further ∧
        next.Widens spare further := by
  unfold Tape.left?
  by_cases hzero : tape.head = 0
  · rw [if_pos hzero, if_pos (h.head_eq.trans hzero)]
    exact .inl ⟨rfl, rfl⟩
  · rw [if_neg hzero, if_neg (h.head_eq ▸ hzero)]
    exact .inr ⟨_, _, rfl, rfl, congrArg (· - 1) h.head_eq, h.bytes_eq⟩

end Widens

end Tape

namespace TapeMachine

open Switchboard.Bracket

-- Two machines that differ in the blank end of their tapes alone.
structure Widens (spare : Nat) (machine wider : TapeMachine) : Prop where
  tape : machine.tape.Widens spare wider.tape
  code_eq : wider.code = machine.code
  cursor_eq : wider.cursor = machine.cursor
  input_eq : wider.input = machine.input
  output_eq : wider.output = machine.output
  fault_eq : wider.fault = machine.fault

namespace Widens

variable {spare : Nat} {machine wider : TapeMachine}

theorem moveRight (h : machine.Widens spare wider) :
    (∃ last position, machine.moveRight.fault = some (.pointerOverflow last position)) ∨
      machine.moveRight.Widens spare wider.moveRight := by
  unfold TapeMachine.moveRight
  cases htape : machine.tape.right? with
  | none => exact .inl ⟨_, _, rfl⟩
  | some next =>
      obtain ⟨further, hfurther, hnext⟩ := h.tape.right? htape
      rw [hfurther]
      exact .inr { h with tape := hnext }

theorem moveLeft (h : machine.Widens spare wider) :
    machine.moveLeft.Widens spare wider.moveLeft := by
  unfold TapeMachine.moveLeft
  obtain ⟨htape, hwider⟩ | ⟨next, further, htape, hwider, hnext⟩ := h.tape.left?
  · rw [htape, hwider, h.cursor_eq]
    exact { h with fault_eq := rfl }
  · rw [htape, hwider]
    exact { h with tape := hnext }

theorem write (h : machine.Widens spare wider) (value : UInt8) :
    Widens spare { machine with tape := machine.tape.write value }
      { wider with tape := wider.tape.write value } :=
  { h with tape := h.tape.write value }

theorem print (h : machine.Widens spare wider) : machine.print.Widens spare wider.print := by
  refine { h with output_eq := ?_ }
  simp only [TapeMachine.print, h.output_eq, h.tape.current_eq]

theorem read (h : machine.Widens spare wider) : machine.read.Widens spare wider.read := by
  unfold TapeMachine.read
  rw [h.input_eq]
  cases machine.input with
  | nil => exact h
  | cons byte rest => exact { h.write byte with input_eq := rfl }

theorem enterLoop (h : machine.Widens spare wider) :
    machine.enterLoop.Widens spare wider.enterLoop := by
  unfold TapeMachine.enterLoop
  rw [h.tape.current_eq, h.code_eq, h.cursor_eq]
  split_ifs
  · exact h
  · cases closing? machine.code 0 (machine.cursor + 1) with
    | none => exact { h with fault_eq := rfl }
    | some place => exact { h with code_eq := rfl, cursor_eq := rfl }

theorem repeatLoop (h : machine.Widens spare wider) :
    machine.repeatLoop.Widens spare wider.repeatLoop := by
  unfold TapeMachine.repeatLoop
  rw [h.tape.current_eq, h.code_eq, h.cursor_eq]
  split_ifs
  · exact h
  · cases opening? machine.code 0 machine.cursor with
    | none => exact { h with fault_eq := rfl }
    | some place => exact { h with code_eq := rfl, cursor_eq := rfl }

-- The one thing that an operator may do otherwise on more cells is to move past the last one.
theorem operate (h : machine.Widens spare wider) (c : Char) :
    (∃ last position, (machine.operate c).fault = some (.pointerOverflow last position)) ∨
      (machine.operate c).Widens spare (wider.operate c) := by
  unfold TapeMachine.operate
  split
  · exact h.moveRight
  · exact .inr h.moveLeft
  · refine .inr ?_
    simp only [increment, h.tape.current_eq]
    exact h.write _
  · refine .inr ?_
    simp only [decrement, h.tape.current_eq]
    exact h.write _
  · exact .inr h.print
  · exact .inr h.read
  · exact .inr h.enterLoop
  · exact .inr h.repeatLoop
  · exact .inr h

-- Step by step the two runs stay together, until the shorter tape is at its end.
theorem walk (h : machine.Widens spare wider) (fuel : Nat) :
    (∃ last position, (machine.walk fuel).1 = some (.error (.pointerOverflow last position))) ∨
      (wider.walk fuel).1 = (machine.walk fuel).1 ∧
        (machine.walk fuel).2.Widens spare (wider.walk fuel).2 := by
  induction fuel generalizing machine wider with
  | zero => exact .inr ⟨rfl, h⟩
  | succ fuel ih =>
      have hcode : wider.code[wider.cursor]? = machine.code[machine.cursor]? := by
        rw [h.code_eq, h.cursor_eq]
      simp only [TapeMachine.walk, hcode]
      cases machine.code[machine.cursor]? with
      | none => exact .inr ⟨rfl, h⟩
      | some c =>
          obtain ⟨last, position, hoverflow⟩ | hnext := h.operate c
          · exact .inl ⟨last, position, by simp only [hoverflow]⟩
          · simp only [hnext.fault_eq]
            cases (machine.operate c).fault with
            | some fault => exact .inr ⟨rfl, { hnext with fault_eq := rfl }⟩
            | none =>
                have hcursor := congrArg (· + 1) hnext.cursor_eq
                exact ih { hnext with cursor_eq := hcursor, fault_eq := rfl }

theorem handOver {walked further : Option (Except TapeFault Unit) × TapeMachine}
    (houtcome : further.1 = walked.1) (h : walked.2.Widens spare further.2) :
    (TapeMachine.handOver further).1 = (TapeMachine.handOver walked).1 ∧
      (TapeMachine.handOver walked).2.Widens spare (TapeMachine.handOver further).2 := by
  obtain ⟨_, final⟩ := walked
  obtain ⟨outcome, last⟩ := further
  obtain rfl := houtcome
  rcases outcome with _ | fault | _
  · exact ⟨rfl, h⟩
  · exact ⟨rfl, h⟩
  · have houtput : last.output = final.output := h.output_eq
    exact ⟨by simp only [TapeMachine.handOver, houtput], { h with output_eq := rfl }⟩

theorem loaded (spare : Nat) (hsize : wider.tape.size = machine.tape.size + spare)
    (hinput : wider.input = machine.input) (code : String) :
    (machine.loaded code).Widens spare (wider.loaded code) where
  tape := .cleared spare hsize
  code_eq := rfl
  cursor_eq := rfl
  input_eq := hinput
  output_eq := rfl
  fault_eq := rfl

end Widens

-- A whole run on a tape with more cells tells the same and leaves the same, unless the tape with
-- fewer of them was too short for it.
theorem run_widens {spare : Nat} {machine wider : TapeMachine}
    (hsize : wider.tape.size = machine.tape.size + spare) (hinput : wider.input = machine.input)
    (fuel : Nat) (code : String) (journal listener : Journal) :
    let answer := ((run fuel machine code).run journal).1
    let further := ((run fuel wider code).run listener).1
    (∃ last position, answer.1 = some (.error (.pointerOverflow last position))) ∨
      further.1 = answer.1 ∧ answer.2.Widens spare further.2 := by
  cases hcode : unmatched? code.toList with
  | some found =>
      simp only [run_refused _ _ _ hcode]
      exact .inr ⟨trivial, .loaded spare hsize hinput ""⟩
  | none =>
      simp only [run_outcome _ _ _ hcode]
      obtain ⟨last, position, hoverflow⟩ | ⟨houtcome, hwidens⟩ :=
        (Widens.loaded spare hsize hinput code).walk fuel
      · refine .inl ⟨last, position, ?_⟩
        generalize (machine.loaded code).walk fuel = walked at hoverflow
        obtain ⟨_, final⟩ := walked
        obtain rfl := hoverflow
        rfl
      · exact .inr (hwidens.handOver houtcome)

-- A program that fits on a tape runs alike on a longer one: it prints the same bytes, reads the
-- same input and works on the same cells, and the further ones stay blank. A fault other than the
-- end of the tape comes out again, and a run that does not end does not end on more cells.
theorem run_longer_tape {n m : Nat} {machine longer : TapeMachine} (h : Reachable n machine)
    (hlonger : Reachable m longer) (hle : n ≤ m) (hinput : longer.input = machine.input)
    (code : String) (journal listener : Journal) :
    let answer fuel := ((run fuel machine code).run journal).1
    let further fuel := ((run fuel longer code).run listener).1
    (∀ fuel bytes, (answer fuel).1 = some (.ok bytes) →
      (further fuel).1 = some (.ok bytes) ∧
      (further fuel).2.tape.head = (answer fuel).2.tape.head ∧
      (further fuel).2.input = (answer fuel).2.input ∧
      (∀ index < max 1 n,
        (further fuel).2.tape.cell? index = (answer fuel).2.tape.cell? index) ∧
      ∀ index, max 1 n ≤ index → index < max 1 m →
        (further fuel).2.tape.cell? index = some 0) ∧
    (∀ fuel fault, (answer fuel).1 = some (.error fault) →
      (∀ last position, fault ≠ .pointerOverflow last position) →
      (further fuel).1 = some (.error fault) ∧
      (further fuel).2.output = (answer fuel).2.output) ∧
    ((∀ fuel, (answer fuel).1 = none) → ∀ fuel, (further fuel).1 = none) := by
  intro answer further
  have hsize := h.sound.size_eq
  have hlongerSize := hlonger.sound.size_eq
  obtain ⟨spare, hspare⟩ : ∃ spare, max 1 m = max 1 n + spare :=
    Nat.exists_eq_add_of_le (by omega)
  have hpair : ∀ fuel, (∃ last position,
      (answer fuel).1 = some (.error (.pointerOverflow last position))) ∨
      (further fuel).1 = (answer fuel).1 ∧ (answer fuel).2.Widens spare (further fuel).2 :=
    fun fuel => run_widens (by omega) hinput fuel code journal listener
  refine ⟨fun fuel bytes hbytes => ?_, fun fuel fault hfault hother => ?_, fun hnone fuel => ?_⟩
  · obtain ⟨last, position, hoverflow⟩ | ⟨houtcome, hwidens⟩ := hpair fuel
    · cases hbytes.symm.trans hoverflow
    · have hfinal : (answer fuel).2.tape.size = max 1 n := (h.ran fuel code journal).sound.size_eq
      refine ⟨houtcome.trans hbytes, hwidens.tape.head_eq, hwidens.input_eq, ?_, ?_⟩
      · intro index hindex
        exact hwidens.tape.cell?_of_lt (by omega)
      · intro index hindex hlt
        exact hwidens.tape.cell?_of_le (by omega) (by omega)
  · obtain ⟨last, position, hoverflow⟩ | ⟨houtcome, hwidens⟩ := hpair fuel
    · cases hfault.symm.trans hoverflow
      exact absurd rfl (hother last position)
    · exact ⟨houtcome.trans hfault, hwidens.output_eq⟩
  · obtain ⟨last, position, hoverflow⟩ | ⟨houtcome, -⟩ := hpair fuel
    · cases (hnone fuel).symm.trans hoverflow
    · exact houtcome.trans (hnone fuel)

-- The sum is made on two cells, and then a move to the left is one too many.
theorem run_longer_tape_spare :
    ∃ machine longer, Reachable 2 machine ∧ Reachable 4 longer ∧ longer.input = machine.input ∧
      ((run 40 machine ",>,[-<+>]<.").run .nothing).1.1 = some (.ok #[5]) ∧
      ((run 40 longer ",>,[-<+>]<.").run .nothing).1.1 = some (.ok #[5]) ∧
      ((run 40 longer ",>,[-<+>]<.").run .nothing).1.2.tape.cell? 3 = some 0 ∧
      ((run 40 machine ",.<").run .nothing).1.1 = some (.error (.pointerUnderflow 2)) ∧
      ((run 40 longer ",.<").run .nothing).1.1 = some (.error (.pointerUnderflow 2)) := by
  have hmade : Reachable 2 ⟨.blank 2, #[], 0, [], #[], none⟩ := .made rfl
  have hlonger : Reachable 4 ⟨.blank 4, #[], 0, [], #[], none⟩ := .made rfl
  have hsum : unmatched? ",>,[-<+>]<.".toList = none := by decide
  have hmove : unmatched? ",.<".toList = none := by decide
  obtain ⟨machine, longer, hmachine, hother, hinput, hprints, hfails⟩ :
      ∃ machine longer, Reachable 2 machine ∧ Reachable 4 longer ∧
        longer.input = machine.input ∧
        (handOver ((machine.loaded ",>,[-<+>]<.").walk 40)).1 = some (.ok #[5]) ∧
        (handOver ((machine.loaded ",.<").walk 40)).1 = some (.error (.pointerUnderflow 2)) :=
    ⟨_, _, (hmade.obeyed "+").fed [2, 3], ((hlonger.loaded ">>>+").walked 9).fed [2, 3],
      by decide +kernel, by decide +kernel, by decide +kernel⟩
  have hsame : ∀ code, _ := fun code =>
    run_longer_tape hmachine hother (by decide) hinput code .nothing .nothing
  have hanswer : ((run 40 machine ",>,[-<+>]<.").run .nothing).1.1 = some (.ok #[5]) := by
    rw [run_outcome 40 machine .nothing hsum, hprints]
  have hfault : ((run 40 machine ",.<").run .nothing).1.1 =
      some (.error (.pointerUnderflow 2)) := by
    rw [run_outcome 40 machine .nothing hmove, hfails]
  obtain ⟨hok, -, -, -, hspare⟩ := (hsame _).1 40 _ hanswer
  obtain ⟨herror, -⟩ := (hsame _).2.1 40 _ hfault (by simp)
  exact ⟨machine, longer, hmachine, hother, hinput, hanswer, hok,
    hspare 3 (by decide) (by decide), hfault, herror⟩

end TapeMachine

end Switchboard
