import Switchboard.Proofs.TapeMachine.Halt

namespace Switchboard.TapeMachine

-- A character is carried out without a fault, and the machine moves on to the one after it.
def Proceeds (machine next : TapeMachine) : Prop :=
  ∃ c, machine.code[machine.cursor]? = some c ∧ (machine.operate c).fault = none ∧
    next = { machine.operate c with cursor := (machine.operate c).cursor + 1 }

-- The way from one machine to another, with all machines that it comes by before the last. Each of
-- them carries out one character, and does so once.
inductive Course : TapeMachine → List TapeMachine → TapeMachine → Prop where
  | here {machine} : Course machine [] machine
  | onward {machine next last trace} (hstep : Proceeds machine next)
      (hrest : Course next trace last) : Course machine (machine :: trace) last

-- What becomes of a run at the last machine that it comes by: the fuel is used up, the code is at
-- its end, or the character cannot be carried out.
inductive Leaves (last : TapeMachine) : Option (Except TapeFault Unit) × TapeMachine → Prop where
  | halfway : Leaves last (none, last)
  | behind (hend : last.code[last.cursor]? = none) : Leaves last (some (.ok ()), last)
  | faulty {c fault} (hchar : last.code[last.cursor]? = some c)
      (hfault : (last.operate c).fault = some fault) :
      Leaves last (some (.error fault), { last.operate c with fault := none })

-- There is no other way for a run, whatever machine it starts from.
theorem exists_course (fuel : Nat) (machine : TapeMachine) :
    ∃ trace last, Course machine trace last ∧ last.Leaves (machine.walk fuel) := by
  induction fuel generalizing machine with
  | zero => exact ⟨[], machine, .here, .halfway⟩
  | succ fuel ih =>
      cases hchar : machine.code[machine.cursor]? with
      | none =>
          have hwalk : machine.walk (fuel + 1) = (some (.ok ()), machine) := by
            simp only [walk, hchar]
          exact ⟨[], machine, .here, hwalk ▸ .behind hchar⟩
      | some c =>
          cases hfault : (machine.operate c).fault with
          | some fault =>
              have hwalk : machine.walk (fuel + 1) =
                  (some (.error fault), { machine.operate c with fault := none }) := by
                simp only [walk, hchar, hfault]
              exact ⟨[], machine, .here, hwalk ▸ .faulty hchar hfault⟩
          | none =>
              obtain ⟨trace, last, hcourse, hleaves⟩ :=
                ih { machine.operate c with cursor := (machine.operate c).cursor + 1 }
              have hwalk := Leads.step hchar hfault fuel
              exact ⟨machine :: trace, last, .onward ⟨c, hchar, hfault, rfl⟩ hcourse,
                hwalk ▸ hleaves⟩

-- What a machine is about to print.
def printing? (machine : TapeMachine) : Option UInt8 :=
  if machine.code[machine.cursor]? = some '.' then some machine.tape.current else none

-- What moves and jumps leave alone.
structure SameQueues (machine next : TapeMachine) : Prop where
  input_eq : next.input = machine.input
  output_eq : next.output = machine.output

theorem sameQueues_moveRight (machine : TapeMachine) : machine.SameQueues machine.moveRight := by
  unfold moveRight
  cases machine.tape.right? <;> exact ⟨rfl, rfl⟩

theorem sameQueues_moveLeft (machine : TapeMachine) : machine.SameQueues machine.moveLeft := by
  unfold moveLeft
  cases machine.tape.left? <;> exact ⟨rfl, rfl⟩

theorem sameQueues_enterLoop (machine : TapeMachine) : machine.SameQueues machine.enterLoop := by
  unfold enterLoop
  split_ifs
  · exact ⟨rfl, rfl⟩
  · cases Bracket.closing? machine.code 0 (machine.cursor + 1) <;> exact ⟨rfl, rfl⟩

theorem sameQueues_repeatLoop (machine : TapeMachine) :
    machine.SameQueues machine.repeatLoop := by
  unfold repeatLoop
  split_ifs
  · exact ⟨rfl, rfl⟩
  · cases Bracket.opening? machine.code 0 machine.cursor <;> exact ⟨rfl, rfl⟩

theorem output_read (machine : TapeMachine) : machine.read.output = machine.output := by
  unfold read
  cases machine.input <;> rfl

-- No character but the one for printing adds to the output.
theorem output_operate (machine : TapeMachine) (c : Char) :
    (machine.operate c).output.toList =
      machine.output.toList ++ if c = '.' then [machine.tape.current] else [] := by
  by_cases hprint : c = '.'
  · subst hprint
    rw [if_pos rfl]
    exact Array.toList_push
  · rw [if_neg hprint, List.append_nil]
    refine congrArg Array.toList ?_
    unfold operate
    split
    · exact machine.sameQueues_moveRight.output_eq
    · exact machine.sameQueues_moveLeft.output_eq
    · rfl
    · rfl
    · exact absurd rfl hprint
    · exact machine.output_read
    · exact machine.sameQueues_enterLoop.output_eq
    · exact machine.sameQueues_repeatLoop.output_eq
    · rfl

namespace Proceeds

variable {machine next : TapeMachine} {length : Nat}

theorem clean (h : machine.Proceeds next) : next.fault = none := by
  obtain ⟨c, -, hfault, rfl⟩ := h
  exact hfault

theorem sound (h : machine.Proceeds next) (hsound : machine.Sound length) :
    next.Sound length := by
  obtain ⟨c, hchar, -, rfl⟩ := h
  exact hsound.advance hchar

theorem code_eq (h : machine.Proceeds next) : next.code = machine.code := by
  obtain ⟨c, -, -, rfl⟩ := h
  exact (machine.keeps_operate c).code_eq

theorem output (h : machine.Proceeds next) :
    next.output.toList = machine.output.toList ++ machine.printing?.toList := by
  obtain ⟨c, hchar, -, rfl⟩ := h
  rw [output_operate, printing?, hchar]
  by_cases hprint : c = '.'
  · simp [hprint]
  · simp [hprint]

end Proceeds

namespace Course

variable {machine last : TapeMachine} {trace : List TapeMachine} {length : Nat}

theorem clean (h : Course machine trace last) (hclean : machine.fault = none) :
    last.fault = none := by
  induction h with
  | here => exact hclean
  | onward hstep _ ih => exact ih hstep.clean

theorem sound (h : Course machine trace last) (hsound : machine.Sound length) :
    last.Sound length := by
  induction h with
  | here => exact hsound
  | onward hstep _ ih => exact ih (hstep.sound hsound)

theorem code_eq (h : Course machine trace last) : last.code = machine.code := by
  induction h with
  | here => rfl
  | onward hstep _ ih => rw [ih, hstep.code_eq]

-- The output grows by what the machines on the way print, in their order.
theorem output (h : Course machine trace last) :
    last.output.toList = machine.output.toList ++ trace.filterMap printing? := by
  induction h with
  | here => simp
  | @onward machine next last trace hstep _ ih =>
      rw [ih, hstep.output, List.append_assoc, List.filterMap_cons]
      cases machine.printing? <;> rfl

end Course

-- A run of balanced code that starts without a fault ends with that of a move that is blocked, and
-- the move is the one thing on its way that has not been done.
theorem exists_course_of_error {machine final : TapeMachine} {length fuel : Nat} {fault : TapeFault}
    (h : machine.Sound length) (hclean : machine.fault = none)
    (hends : machine.walk fuel = (some (.error fault), final)) :
    ∃ trace c, Course machine trace final ∧ final.code[final.cursor]? = some c ∧
      final.Blocked c fault := by
  obtain ⟨trace, last, hcourse, hleaves⟩ := exists_course fuel machine
  have hlast := hcourse.clean hclean
  rw [hends] at hleaves
  cases hleaves with
  | @faulty c _ hchar hfault =>
      obtain ⟨hblocked, hfailed⟩ := blocked_of_operate (hcourse.sound h) hlast hchar hfault
      rw [hfailed, failed_undone hlast]
      exact ⟨trace, c, hcourse, hchar, hblocked⟩

end Switchboard.TapeMachine
