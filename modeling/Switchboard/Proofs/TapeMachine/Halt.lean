import Switchboard.Proofs.TapeMachine.Reachable

namespace Switchboard.TapeMachine

open Switchboard.Bracket

variable {length : Nat} {machine final : TapeMachine}

-- A move that would leave the tape. Nothing else that stands in a program can fail.
inductive Blocked (machine : TapeMachine) : Char → TapeFault → Prop where
  | left (hhead : machine.tape.head = 0) : Blocked machine '<' (.pointerUnderflow machine.cursor)
  | right (hhead : machine.tape.head = machine.tape.size - 1) :
      Blocked machine '>' (.pointerOverflow (machine.tape.size - 1) machine.cursor)

theorem blocked_of_moveRight {fault : TapeFault} (hclean : machine.fault = none)
    (hfault : machine.moveRight.fault = some fault) :
    machine.Blocked '>' fault ∧ machine.moveRight = machine.failed fault := by
  unfold moveRight at hfault ⊢
  cases htape : machine.tape.right? with
  | some tape =>
      rw [htape] at hfault
      exact absurd (hclean.symm.trans hfault) (by simp)
  | none =>
      rw [htape] at hfault
      obtain rfl := Option.some.inj hfault
      refine ⟨.right ?_, rfl⟩
      have hlt := machine.tape.head_lt
      unfold Tape.right? at htape
      split_ifs at htape with hroom
      simp only [Tape.size]
      omega

theorem blocked_of_moveLeft {fault : TapeFault} (hclean : machine.fault = none)
    (hfault : machine.moveLeft.fault = some fault) :
    machine.Blocked '<' fault ∧ machine.moveLeft = machine.failed fault := by
  unfold moveLeft at hfault ⊢
  cases htape : machine.tape.left? with
  | some tape =>
      rw [htape] at hfault
      exact absurd (hclean.symm.trans hfault) (by simp)
  | none =>
      rw [htape] at hfault
      obtain rfl := Option.some.inj hfault
      refine ⟨.left ?_, rfl⟩
      unfold Tape.left? at htape
      split_ifs at htape with hzero
      exact hzero

theorem fault_read (machine : TapeMachine) : machine.read.fault = machine.fault := by
  unfold read
  cases machine.input <;> rfl

-- In balanced code the scan of a bracket finds its partner, so no bracket fails.
theorem fault_enterLoop (hcode : Balanced machine.code.toList)
    (hchar : machine.code[machine.cursor]? = some '[') :
    machine.enterLoop.fault = machine.fault := by
  obtain ⟨place, hplace⟩ := hcode.exists_closing? hchar
  unfold enterLoop
  split_ifs
  · rfl
  · rw [hplace]

theorem fault_repeatLoop (hcode : Balanced machine.code.toList)
    (hchar : machine.code[machine.cursor]? = some ']') :
    machine.repeatLoop.fault = machine.fault := by
  obtain ⟨place, hplace⟩ := hcode.exists_opening? hchar
  unfold repeatLoop
  split_ifs
  · rfl
  · rw [hplace]

-- An operator that fails on its character of the code is a blocked move, and it changes nothing.
theorem blocked_of_operate (h : machine.Sound length) (hclean : machine.fault = none) {c : Char}
    (hchar : machine.code[machine.cursor]? = some c) {fault : TapeFault}
    (hfault : (machine.operate c).fault = some fault) :
    machine.Blocked c fault ∧ machine.operate c = machine.failed fault := by
  have hnone : ¬machine.fault = some fault := by simp [hclean]
  revert hfault
  unfold operate
  split
  · exact blocked_of_moveRight hclean
  · exact blocked_of_moveLeft hclean
  · exact fun hfault => absurd hfault hnone
  · exact fun hfault => absurd hfault hnone
  · exact fun hfault => absurd hfault hnone
  · exact fun hfault => absurd (machine.fault_read ▸ hfault) hnone
  · exact fun hfault => absurd (fault_enterLoop h.balanced hchar ▸ hfault) hnone
  · exact fun hfault => absurd (fault_repeatLoop h.balanced hchar ▸ hfault) hnone
  · exact fun hfault => absurd hfault hnone

-- Where a run can end: behind the last character, or on a move that is blocked.
def Halts (machine : TapeMachine) : Except TapeFault Unit → Prop
  | .ok () => machine.cursor = machine.code.size
  | .error fault => ∃ c, machine.code[machine.cursor]? = some c ∧ machine.Blocked c fault

-- A run that ends comes by a machine that ends at once, and it stays that machine.
theorem exists_halt (h : machine.Sound length) (hclean : machine.fault = none) {fuel : Nat}
    {outcome : Except TapeFault Unit} (hends : machine.walk fuel = (some outcome, final)) :
    ∃ count < fuel, Leads count machine final ∧ final.walk 1 = (some outcome, final) ∧
      final.fault = none ∧ final.Halts outcome := by
  induction fuel generalizing machine with
  | zero => cases hends
  | succ fuel ih =>
      cases hchar : machine.code[machine.cursor]? with
      | none =>
          have hwalk : machine.walk 1 = (some (.ok ()), machine) := by
            simp only [walk, hchar]
          obtain ⟨rfl, rfl⟩ := walk_unique hwalk hends
          refine ⟨0, Nat.zero_lt_succ _, Leads.refl _, hwalk, hclean, ?_⟩
          have hle := Array.getElem?_eq_none_iff.mp hchar
          exact Nat.le_antisymm h.cursor_le hle
      | some c =>
          cases hfault : (machine.operate c).fault with
          | none =>
              have hstep := Leads.step hchar hfault
              obtain ⟨count, hcount, hleads, hhalt⟩ :=
                ih (h.advance hchar) hfault ((hstep fuel).symm.trans hends)
              exact ⟨count + 1, by omega, hstep.trans hleads, hhalt⟩
          | some fault =>
              obtain ⟨hblocked, hfailed⟩ := blocked_of_operate h hclean hchar hfault
              have hwalk : machine.walk 1 = (some (.error fault), machine) :=
                walk_failed hchar hfailed hclean 0
              obtain ⟨rfl, rfl⟩ := walk_unique hwalk hends
              exact ⟨0, Nat.zero_lt_succ _, Leads.refl _, hwalk, hclean, c, hchar, hblocked⟩

-- A run from wherever a caller left the machine ends behind the code or on a move that would leave
-- the tape, before that move has changed anything. Run again, the machine ends there at once.
theorem execute_stops (h : Reachable length machine) (hclean : machine.fault = none) {fuel : Nat}
    {journal : Journal} {outcome : Except TapeFault Unit}
    (hends : ((execute fuel machine).run journal).1 = (some outcome, final)) :
    final.fault = none ∧
    (outcome = .ok () → final.cursor = final.code.size) ∧
    (∀ fault, outcome = .error fault →
      (fault = .pointerUnderflow final.cursor ∧
          final.code[final.cursor]? = some '<' ∧ final.tape.head = 0 ∨
        fault = .pointerOverflow (final.tape.size - 1) final.cursor ∧
          final.code[final.cursor]? = some '>' ∧ final.tape.head = final.tape.size - 1) ∧
      ∃ count < fuel, ((execute count machine).run journal).1 = (none, final) ∧
        ((execute (count + 1) machine).run journal).1 = (some (.error fault), final)) ∧
    ∀ more listener, ((execute (more + 1) final).run listener).1 = (some outcome, final) := by
  simp only [execute_outcome] at hends ⊢
  obtain ⟨count, hcount, hleads, hwalk, hfinal, hhalts⟩ := exists_halt h.sound hclean hends
  refine ⟨hfinal, ?_, ?_, ?_⟩
  · rintro rfl
    exact hhalts
  · rintro fault rfl
    obtain ⟨c, hchar, hblocked⟩ := hhalts
    refine ⟨?_, count, hcount, ?_, ?_⟩
    · cases hblocked with
      | left hhead => exact .inl ⟨rfl, hchar, hhead⟩
      | right hhead => exact .inr ⟨rfl, hchar, hhead⟩
    · exact Nat.zero_add count ▸ hleads 0
    · rw [Nat.add_comm, hleads, hwalk]
  · intro more listener
    rw [Nat.add_comm]
    exact walk_add hwalk more

-- The bracket that is given as a token leaves the cursor on its partner, in the middle of the code.
theorem execute_stops_midway :
    ∃ machine final, Reachable 2 machine ∧ machine.cursor = 2 ∧
      ((execute 9 machine).run .nothing).1 = (some (.error (.pointerOverflow 1 4)), final) ∧
      final.code[final.cursor]? = some '>' ∧ final.tape.head = final.tape.size - 1 ∧
      final.fault = none ∧ (∃ count < 9, ((execute count machine).run .nothing).1 = (none, final)) ∧
      ((execute 1 final).run .nothing).1 = (some (.error (.pointerOverflow 1 4)), final) := by
  have hmade : Reachable 2 ⟨.blank 2, #[], 0, [], #[], none⟩ := .made rfl
  obtain ⟨machine, hjumped, hclean, hcursor, hoverflow⟩ : ∃ machine, Reachable 2 machine ∧
      machine.fault = none ∧ machine.cursor = 2 ∧
      (machine.walk 9).1 = some (.error (.pointerOverflow 1 4)) :=
    ⟨_, (hmade.loaded "[+]>>").obeyed "[", by decide +kernel, by decide +kernel, by decide +kernel⟩
  have hends : ((execute 9 machine).run .nothing).1 =
      (some (.error (.pointerOverflow 1 4)), (machine.walk 9).2) := by
    rw [execute_outcome, ← hoverflow]
  obtain ⟨hfinal, -, hfault, hagain⟩ := execute_stops hjumped hclean hends
  obtain ⟨hstop, count, hcount, hbefore, -⟩ := hfault _ rfl
  refine ⟨machine, _, hjumped, hcursor, hends, ?_, ?_, hfinal, ⟨count, hcount, hbefore⟩,
    hagain 0 .nothing⟩
  · obtain ⟨hother, -⟩ | ⟨-, hchar, -⟩ := hstop
    · cases hother
    · exact hchar
  · obtain ⟨hother, -⟩ | ⟨-, -, hhead⟩ := hstop
    · cases hother
    · exact hhead

end Switchboard.TapeMachine
