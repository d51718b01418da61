import Switchboard.Proofs.TapeMachine.View

namespace Switchboard

namespace Tape

theorem length_bytes (tape : Tape) : tape.bytes.length = tape.size := rfl

theorem cell?_eq_getElem?_bytes (tape : Tape) (index : Nat) :
    tape.cell? index = tape.bytes[index]? := by
  rw [bytes, Array.getElem?_toList]
  rfl

theorem cell?_write (tape : Tape) (value : UInt8) (index : Nat) :
    (tape.write value).cell? index = if index = tape.head then some value else tape.cell? index := by
  simp only [cell?_eq_getElem?_bytes, bytes_write, List.getElem?_set, tape.head_lt_length, if_true,
    eq_comm]

@[simp] theorem size_write (tape : Tape) (value : UInt8) :
    (tape.write value).size = tape.size := by
  rw [← length_bytes, bytes_write, List.length_set, length_bytes]

theorem size_blank (length : Nat) : (blank length).size = max 1 length := by
  rw [← length_bytes, bytes_blank, List.length_replicate, Nat.max_comm]

@[simp] theorem size_cleared (tape : Tape) : tape.cleared.size = tape.size := by
  rw [← length_bytes, bytes_cleared, List.length_replicate]

theorem size_of_right? {tape next : Tape} (h : tape.right? = some next) :
    next.size = tape.size := by
  unfold right? at h
  split_ifs at h
  exact Option.some.inj h ▸ rfl

theorem size_of_left? {tape next : Tape} (h : tape.left? = some next) : next.size = tape.size := by
  unfold left? at h
  split_ifs at h
  exact Option.some.inj h ▸ rfl

end Tape

namespace TapeMachine

open Switchboard.Bracket

variable {length : Nat} {machine next : TapeMachine}

-- What no operator changes. A jump ends on a character of the code, wherever it started.
structure Keeps (machine next : TapeMachine) : Prop where
  code_eq : next.code = machine.code
  size_eq : next.tape.size = machine.tape.size
  cursor : next.cursor = machine.cursor ∨ next.cursor < machine.code.size

theorem Keeps.refl (machine : TapeMachine) : machine.Keeps machine := ⟨rfl, rfl, .inl rfl⟩

theorem keeps_moveRight (machine : TapeMachine) : machine.Keeps machine.moveRight := by
  unfold moveRight
  cases htape : machine.tape.right? with
  | none => exact ⟨rfl, rfl, .inl rfl⟩
  | some tape => exact ⟨rfl, Tape.size_of_right? htape, .inl rfl⟩

theorem keeps_moveLeft (machine : TapeMachine) : machine.Keeps machine.moveLeft := by
  unfold moveLeft
  cases htape : machine.tape.left? with
  | none => exact ⟨rfl, rfl, .inl rfl⟩
  | some tape => exact ⟨rfl, Tape.size_of_left? htape, .inl rfl⟩

theorem keeps_read (machine : TapeMachine) : machine.Keeps machine.read := by
  unfold read
  cases machine.input with
  | nil => exact .refl machine
  | cons byte rest => exact ⟨rfl, Tape.size_write machine.tape byte, .inl rfl⟩

theorem keeps_enterLoop (machine : TapeMachine) : machine.Keeps machine.enterLoop := by
  unfold enterLoop
  split_ifs with hzero
  · exact .refl machine
  · cases hplace : closing? machine.code 0 (machine.cursor + 1) with
    | none => exact ⟨rfl, rfl, .inl rfl⟩
    | some place => exact ⟨rfl, rfl, .inr (lt_of_closing?_eq_some hplace)⟩

theorem keeps_repeatLoop (machine : TapeMachine) : machine.Keeps machine.repeatLoop := by
  unfold repeatLoop
  split_ifs with hzero
  · exact .refl machine
  · cases hplace : opening? machine.code 0 machine.cursor with
    | none => exact ⟨rfl, rfl, .inl rfl⟩
    | some place => exact ⟨rfl, rfl, .inr (lt_of_opening?_eq_some hplace)⟩

theorem keeps_operate (machine : TapeMachine) (c : Char) : machine.Keeps (machine.operate c) := by
  unfold operate
  split
  · exact machine.keeps_moveRight
  · exact machine.keeps_moveLeft
  · exact ⟨rfl, Tape.size_write machine.tape _, .inl rfl⟩
  · exact ⟨rfl, Tape.size_write machine.tape _, .inl rfl⟩
  · exact ⟨rfl, rfl, .inl rfl⟩
  · exact machine.keeps_read
  · exact machine.keeps_enterLoop
  · exact machine.keeps_repeatLoop
  · exact .refl machine

theorem keeps_obey (machine : TapeMachine) (token : String) :
    machine.Keeps (machine.obey token) := by
  unfold obey
  split
  · exact machine.keeps_operate _
  · exact .refl machine

-- The shape that a machine of a given length has between any two calls, also with a fault left
-- behind.
structure Sound (length : Nat) (machine : TapeMachine) : Prop where
  length_le : length ≤ lengthLimit
  size_eq : machine.tape.size = max 1 length
  cursor_le : machine.cursor ≤ machine.code.size
  balanced : Balanced machine.code.toList

namespace Sound

theorem of_keeps (h : machine.Sound length) (hnext : machine.Keeps next) : next.Sound length where
  length_le := h.length_le
  size_eq := hnext.size_eq.trans h.size_eq
  cursor_le := by
    rw [hnext.code_eq]
    obtain hcursor | hcursor := hnext.cursor
    · exact hcursor ▸ h.cursor_le
    · exact Nat.le_of_lt hcursor
  balanced := hnext.code_eq ▸ h.balanced

-- On a character of the code an operator ends on a character, so there is a place to go on from.
theorem advance (h : machine.Sound length) {c : Char}
    (hchar : machine.code[machine.cursor]? = some c) :
    Sound length { machine.operate c with cursor := (machine.operate c).cursor + 1 } := by
  have hkeeps := machine.keeps_operate c
  have hsound := h.of_keeps hkeeps
  refine ⟨h.length_le, hsound.size_eq, ?_, hsound.balanced⟩
  have hlt := (Array.getElem?_eq_some_iff.mp hchar).1
  have hcode : (machine.operate c).code.size = machine.code.size := by rw [hkeeps.code_eq]
  obtain hcursor | hcursor := hkeeps.cursor
  · simp only [hcode, hcursor]
    omega
  · simp only [hcode]
    omega

theorem walk (h : machine.Sound length) (fuel : Nat) : (machine.walk fuel).2.Sound length := by
  induction fuel generalizing machine with
  | zero => exact h
  | succ fuel ih =>
      unfold TapeMachine.walk
      split
      · exact h
      · rename_i c hchar
        split
        · exact (h.of_keeps (machine.keeps_operate c)).of_keeps ⟨rfl, rfl, .inl rfl⟩
        · exact ih (h.advance hchar)

theorem clear (h : machine.Sound length) : machine.clear.Sound length where
  length_le := h.length_le
  size_eq := (Tape.size_cleared machine.tape).trans h.size_eq
  cursor_le := Nat.le_refl 0
  balanced := balancedFrom_nil.mpr rfl

-- A refused program leaves the one before it in its place.
theorem setCode (h : machine.Sound length) (code : String) :
    (machine.setCode code).2.Sound length := by
  unfold TapeMachine.setCode
  cases hcode : unmatched? code.toList with
  | some bracket => exact h
  | none => exact ⟨h.length_le, h.size_eq, Nat.zero_le _, (unmatched?_eq_none_iff _).mp hcode⟩

theorem run (h : machine.Sound length) (fuel : Nat) (code : String) (journal : Journal) :
    ((run fuel machine code).run journal).1.2.Sound length := by
  cases hcode : unmatched? code.toList with
  | some bracket =>
      simp only [TapeMachine.run, TapeMachine.setCode, hcode]
      exact h.clear.of_keeps ⟨rfl, rfl, .inl rfl⟩
  | none =>
      have hloaded : Sound length (machine.loaded code) :=
        ⟨h.length_le, h.clear.size_eq, Nat.zero_le _, (unmatched?_eq_none_iff _).mp hcode⟩
      have hwalked := hloaded.walk fuel
      rw [run_outcome fuel machine journal hcode]
      generalize (machine.loaded code).walk fuel = walked at hwalked
      rcases walked with ⟨_ | ⟨fault | _⟩, final⟩
      · exact hwalked
      · exact hwalked
      · exact hwalked.of_keeps ⟨rfl, rfl, .inl rfl⟩

theorem dispatched (h : machine.Sound length) {board : Table TapeMachine} (hboard : Drives board)
    (token : String) (journal : Journal) :
    ((board.dispatch machine token).run journal).1.2.Sound length := by
  obtain ⟨route, hroute⟩ := hboard.dispatch_token machine journal token
  rw [hroute]
  exact h.of_keeps (machine.keeps_obey token)

end Sound

-- The machines of a given length that a caller can come by: made, loaded, run, cleared, fed,
-- drained and given tokens in any order, with any answers. A run that is cut short counts as well.
inductive Reachable (length : Nat) : TapeMachine → Prop where
  | made {machine : TapeMachine} (h : ofLength length = .ok machine) : Reachable length machine
  | loaded {machine : TapeMachine} (h : Reachable length machine) (code : String) :
      Reachable length (machine.setCode code).2
  | executed {machine : TapeMachine} (h : Reachable length machine) (fuel : Nat)
      (journal : Journal) : Reachable length ((execute fuel machine).run journal).1.2
  | ran {machine : TapeMachine} (h : Reachable length machine) (fuel : Nat) (code : String)
      (journal : Journal) : Reachable length ((run fuel machine code).run journal).1.2
  | cleared {machine : TapeMachine} (h : Reachable length machine) : Reachable length machine.clear
  | fed {machine : TapeMachine} (h : Reachable length machine) (bytes : List UInt8) :
      Reachable length (machine.pushInput bytes)
  | drained {machine : TapeMachine} (h : Reachable length machine) : Reachable length machine.takeOutput.2
  | dispatched {machine : TapeMachine} (h : Reachable length machine) {board : Table TapeMachine}
      (hboard : Drives board) (token : String) (journal : Journal) :
      Reachable length ((board.dispatch machine token).run journal).1.2
  | dispatchedAll {machine : TapeMachine} (h : Reachable length machine) {board : Table TapeMachine}
      (hboard : Drives board) (tokens : List String) (journal : Journal) :
      Reachable length ((board.dispatchAll machine tokens).run journal).1.2

namespace Reachable

theorem obeyed (h : Reachable length machine) (token : String) :
    Reachable length (machine.obey token) := by
  obtain ⟨route, hroute⟩ := table_drives.dispatch_token machine .nothing token
  simpa only [hroute] using h.dispatched table_drives token .nothing

theorem sound (h : Reachable length machine) : machine.Sound length := by
  induction h with
  | made hmade =>
      unfold ofLength at hmade
      split_ifs at hmade with hlimit
      obtain rfl := Except.ok.inj hmade
      exact ⟨Nat.not_lt.mp hlimit, Tape.size_blank length, Nat.le_refl 0, balancedFrom_nil.mpr rfl⟩
  | loaded _ code ih => exact ih.setCode code
  | executed _ fuel journal ih =>
      rw [execute_outcome]
      exact ih.walk fuel
  | ran _ fuel code journal ih => exact ih.run fuel code journal
  | cleared _ ih => exact ih.clear
  | fed _ bytes ih => exact ih.of_keeps ⟨rfl, rfl, .inl rfl⟩
  | drained _ ih => exact ih.of_keeps ⟨rfl, rfl, .inl rfl⟩
  | dispatched _ hboard token journal ih => exact ih.dispatched hboard token journal
  | dispatchedAll _ hboard tokens journal ih =>
      exact Table.dispatchAllFrom_keeps
        (fun _ token journal h => h.dispatched hboard token journal) ih 0 tokens journal

end Reachable

-- Whatever was asked of a machine, its tape has the cells that it was made with, the cursor stands
-- in the code or at its end, and the code is balanced. So the cell under the head is there to be
-- read and written, and a byte that is taken from the queue ends up in it.
theorem representation_of_reachable (h : Reachable length machine) :
    machine.tape.size = max 1 length ∧ 1 ≤ machine.tape.size ∧ machine.tape.size ≤ 16777216 ∧
    machine.tape.head < machine.tape.size ∧ machine.cursor ≤ machine.code.size ∧
    Balanced machine.code.toList ∧
    machine.tape.cell? machine.tape.head = some machine.tape.current ∧
    (∀ value index, (machine.tape.write value).cell? index =
      if index = machine.tape.head then some value else machine.tape.cell? index) ∧
    ∀ byte rest, machine.input = byte :: rest → ∀ board, Drives board → ∀ journal, ∃ route,
      ((board.dispatch machine ",").run journal).1 =
        (.ok route, { machine with tape := machine.tape.write byte, input := rest }) := by
  obtain ⟨hlength, hsize, hcursor, hbalanced⟩ := h.sound
  simp only [lengthLimit] at hlength
  refine ⟨hsize, by omega, by omega, machine.tape.head_lt, hcursor, hbalanced, ?_,
    machine.tape.cell?_write, ?_⟩
  · rw [Tape.cell?_eq_getElem?_bytes, Tape.getElem?_bytes_head]
  · intro byte rest hinput board hboard journal
    obtain ⟨route, hroute⟩ := hboard.dispatch_token machine journal ","
    have hread : machine.obey "," = machine.read := machine.obey_singleton ','
    refine ⟨route, ?_⟩
    rw [hroute, hread, read, hinput]

-- The first move leaves a fault behind, a program is refused and another one loaded, and a bracket
-- that is given as a token moves the cursor to its partner.
theorem representation_of_reachable_pending :
    ∃ machine, Reachable 0 machine ∧ machine.fault = some (.pointerUnderflow 0) ∧
      machine.cursor = 2 ∧ machine.tape.size = 1 ∧ Balanced machine.code.toList ∧
      ∃ route, ((table.dispatch machine ",").run .nothing).1 =
        (.ok route, { machine with tape := machine.tape.write 7, input := [] }) := by
  have hmade : Reachable 0 ⟨.blank 0, #[], 0, [], #[], none⟩ := .made rfl
  have hjumped := ((((hmade.obeyed "<").loaded "]").loaded "[,]").obeyed "[").fed [7]
  obtain ⟨hsize, -, -, -, -, hbalanced, -, -, hread⟩ := representation_of_reachable hjumped
  refine ⟨_, hjumped, ?_, ?_, hsize, hbalanced, hread 7 [] ?_ table table_drives .nothing⟩
  · decide +kernel
  · decide +kernel
  · decide +kernel

end TapeMachine

end Switchboard
