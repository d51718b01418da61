import Switchboard.Proofs.TapeMachine.Partner
import Switchboard.Proofs.TapeMachine.Reference
import Switchboard.Proofs.TapeMachine.Walk

namespace Switchboard

namespace Tape

def bytes (tape : Tape) : List UInt8 := tape.cells.data.toList

theorem head_lt_length (tape : Tape) : tape.head < tape.bytes.length := tape.head_lt

theorem getElem?_bytes_head (tape : Tape) : tape.bytes[tape.head]? = some tape.current := by
  rw [List.getElem?_eq_getElem tape.head_lt_length]
  rfl

theorem bytes_write (tape : Tape) (value : UInt8) :
    (tape.write value).bytes = tape.bytes.set tape.head value :=
  Array.toList_set _ _ _ tape.head_lt

theorem head_write (tape : Tape) (value : UInt8) : (tape.write value).head = tape.head := rfl

theorem toList_pushZeros (count : Nat) (cells : ByteArray) :
    (pushZeros count cells).data.toList = cells.data.toList ++ List.replicate count 0 := by
  induction count generalizing cells with
  | zero => simp [pushZeros]
  | succ count ih =>
      rw [pushZeros, ih, ByteArray.data_push, Array.toList_push, List.append_assoc,
        List.singleton_append, List.replicate_succ]

theorem bytes_blank (length : Nat) : (blank length).bytes = List.replicate (max length 1) 0 :=
  toList_pushZeros (max length 1) ByteArray.empty

-- A tape keeps its length when it is cleared, since it has one cell at least.
theorem bytes_cleared (tape : Tape) : tape.cleared.bytes = List.replicate tape.size 0 := by
  have hpos : 1 ≤ tape.size := Nat.lt_of_le_of_lt (Nat.zero_le _) tape.head_lt
  rw [cleared, bytes_blank, Nat.max_eq_left hpos]

end Tape

namespace TapeMachine

def workspace (machine : TapeMachine) : Workspace where
  cells := machine.tape.bytes
  pointer := machine.tape.head
  input := machine.input
  output := machine.output.toList

-- The machine stands on a position of its code, and it has found no fault.
structure Shows (machine : TapeMachine) (code : Array Char) (position : Nat) (s : Workspace) :
    Prop where
  code_eq : machine.code = code
  cursor_eq : machine.cursor = position
  fault_eq : machine.fault = none
  workspace_eq : machine.workspace = s

-- What an operator leaves behind: all that the reference says, or else its fault and no change.
def Answers (machine next : TapeMachine) (code : Array Char) (position : Nat) :
    Except TapeFault Workspace → Prop
  | .ok s => next.Shows code position s
  | .error fault => next = machine.failed fault

namespace Shows

variable {machine next : TapeMachine} {code : Array Char} {position : Nat} {s : Workspace}

theorem current_eq (h : machine.Shows code position s) : s.current = machine.tape.current := by
  rw [← h.workspace_eq]
  simp only [Workspace.current, workspace, List.getD_eq_getElem?_getD, Tape.getElem?_bytes_head,
    Option.getD_some]

-- Nothing else belongs to a machine.
theorem unique (h : machine.Shows code position s) (hnext : next.Shows code position s) :
    machine = next := by
  obtain ⟨⟨⟨cells⟩, head, hlt⟩, code, cursor, input, ⟨output⟩, fault⟩ := machine
  obtain ⟨⟨⟨cells'⟩, head', hlt'⟩, code', cursor', input', ⟨output'⟩, fault'⟩ := next
  obtain ⟨rfl, rfl, rfl, rfl⟩ := h
  obtain ⟨hcode, hcursor, hfault, hworkspace⟩ := hnext
  simp_all [workspace, Tape.bytes, Array.toList_inj]

theorem write (h : machine.Shows code position s) (value : UInt8) :
    Shows { machine with tape := machine.tape.write value } code position (s.put value) := by
  obtain ⟨rfl, rfl, hfault, rfl⟩ := h
  refine ⟨rfl, rfl, hfault, ?_⟩
  simp only [workspace, Tape.bytes_write, Tape.head_write, Workspace.put]

theorem moveRight (h : machine.Shows code position s) :
    machine.Answers machine.moveRight code position (s.apply position '>') := by
  obtain ⟨rfl, rfl, hfault, rfl⟩ := h
  simp only [TapeMachine.moveRight, Tape.right?, Workspace.apply]
  by_cases hlt : machine.tape.head + 1 < machine.tape.cells.size
  · have hpointer : machine.workspace.pointer + 1 < machine.workspace.cells.length := hlt
    rw [dif_pos hlt, if_pos hpointer]
    exact ⟨rfl, rfl, hfault, rfl⟩
  · have hpointer : ¬machine.workspace.pointer + 1 < machine.workspace.cells.length := hlt
    rw [dif_neg hlt, if_neg hpointer]
    rfl

theorem moveLeft (h : machine.Shows code position s) :
    machine.Answers machine.moveLeft code position (s.apply position '<') := by
  obtain ⟨rfl, rfl, hfault, rfl⟩ := h
  simp only [TapeMachine.moveLeft, Tape.left?, Workspace.apply]
  by_cases hzero : machine.tape.head = 0
  · have hpointer : ¬0 < machine.workspace.pointer := Nat.not_lt.mpr (Nat.le_of_eq hzero)
    rw [if_pos hzero, if_neg hpointer]
    rfl
  · have hpointer : 0 < machine.workspace.pointer := Nat.pos_of_ne_zero hzero
    rw [if_neg hzero, if_pos hpointer]
    exact ⟨rfl, rfl, hfault, rfl⟩

theorem increment (h : machine.Shows code position s) :
    machine.Answers machine.increment code position (s.apply position '+') := by
  simp only [TapeMachine.increment, Workspace.apply, ← h.current_eq]
  exact h.write _

theorem decrement (h : machine.Shows code position s) :
    machine.Answers machine.decrement code position (s.apply position '-') := by
  simp only [TapeMachine.decrement, Workspace.apply, ← h.current_eq]
  exact h.write _

theorem print (h : machine.Shows code position s) :
    machine.Answers machine.print code position (s.apply position '.') := by
  simp only [TapeMachine.print, Workspace.apply, h.current_eq]
  obtain ⟨rfl, rfl, hfault, rfl⟩ := h
  refine ⟨rfl, rfl, hfault, ?_⟩
  simp only [workspace, Array.toList_push]

theorem read (h : machine.Shows code position s) :
    machine.Answers machine.read code position (s.apply position ',') := by
  have hinput : s.input = machine.input := by
    rw [← h.workspace_eq]
    rfl
  simp only [TapeMachine.read, Workspace.apply, hinput]
  cases machine.input with
  | nil => exact h
  | cons byte rest =>
      have hwrite := h.write byte
      obtain ⟨hcode, hcursor, hfault, hworkspace⟩ := hwrite
      refine ⟨hcode, hcursor, hfault, ?_⟩
      rw [← hworkspace]
      rfl

theorem operate_plain (h : machine.Shows code position s) {c : Char}
    (isPlain : c ≠ '[' ∧ c ≠ ']') :
    machine.Answers (machine.operate c) code position (s.apply position c) := by
  unfold operate
  split
  · exact h.moveRight
  · exact h.moveLeft
  · exact h.increment
  · exact h.decrement
  · exact h.print
  · exact h.read
  · exact absurd rfl isPlain.1
  · exact absurd rfl isPlain.2
  · have happly : s.apply position c = .ok s := by
      unfold Workspace.apply
      split <;> simp_all
    rw [happly]
    exact h

-- One step takes the machine to the character after the one that its operator ends on.
theorem exists_step (h : machine.Shows code position s) {c : Char}
    (hchar : code[position]? = some c) {place : Nat} {result : Workspace}
    (hnext : (machine.operate c).Shows code place result) :
    ∃ next, Leads 1 machine next ∧ next.Shows code (place + 1) result := by
  rw [← h.code_eq, ← h.cursor_eq] at hchar
  refine ⟨_, Leads.step hchar hnext.fault_eq, ?_⟩
  obtain ⟨hcode, hcursor, hfault, hworkspace⟩ := hnext
  exact ⟨hcode, congrArg (· + 1) hcursor, hfault, hworkspace⟩

theorem step_plain (h : machine.Shows code position s) {c : Char} (isPlain : c ≠ '[' ∧ c ≠ ']')
    (hchar : code[position]? = some c) {result : Workspace}
    (happly : s.apply position c = .ok result) :
    ∃ next, Leads 1 machine next ∧ next.Shows code (position + 1) result := by
  have hoperate := h.operate_plain isPlain
  rw [happly] at hoperate
  exact h.exists_step hchar hoperate

-- A fault is handed over, and the machine is left as it was found.
theorem walk_fault (h : machine.Shows code position s) {c : Char} (isPlain : c ≠ '[' ∧ c ≠ ']')
    (hchar : code[position]? = some c) {fault : TapeFault}
    (happly : s.apply position c = .error fault) :
    machine.walk 1 = (some (.error fault), machine) := by
  have hoperate : machine.operate c = machine.failed fault := by
    have hanswers := h.operate_plain isPlain
    rwa [happly] at hanswers
  rw [← h.code_eq, ← h.cursor_eq] at hchar
  exact walk_failed hchar hoperate h.fault_eq 0

theorem walk_end (h : machine.Shows code position s) (hchar : code[position]? = none) :
    machine.walk 1 = (some (.ok ()), machine) := by
  rw [← h.code_eq, ← h.cursor_eq] at hchar
  simp only [walk, hchar]

section Loop

variable {body : LoopTree} {after : List Char}

open Switchboard.Bracket

theorem enter_zero (h : machine.Shows code position s) (hzero : s.current = 0)
    (hstands : Stands code position ('[' :: (body.text ++ ']' :: after))) :
    ∃ next, Leads 1 machine next ∧ next.Shows code (position + 1 + body.text.length + 1) s := by
  refine h.exists_step hstands.head (c := '[') ?_
  have hclosing := closing?_loop (balanced_text body) hstands
  rw [h.current_eq] at hzero
  obtain ⟨rfl, rfl, hfault, rfl⟩ := h
  simp only [operate, enterLoop, hzero, ne_eq, not_true_eq_false, if_false, hclosing]
  exact ⟨rfl, rfl, hfault, rfl⟩

theorem enter_nonzero (h : machine.Shows code position s) (hzero : s.current ≠ 0)
    (hstands : Stands code position ('[' :: (body.text ++ ']' :: after))) :
    ∃ next, Leads 1 machine next ∧ next.Shows code (position + 1) s := by
  refine h.exists_step hstands.head (c := '[') ?_
  have hcurrent := h.current_eq ▸ hzero
  simpa only [operate, enterLoop, ne_eq, hcurrent, not_false_eq_true, if_true] using h

theorem repeat_zero (h : machine.Shows code (position + 1 + body.text.length) s)
    (hzero : s.current = 0)
    (hstands : Stands code position ('[' :: (body.text ++ ']' :: after))) :
    ∃ next, Leads 1 machine next ∧ next.Shows code (position + 1 + body.text.length + 1) s := by
  refine h.exists_step hstands.tail.skip.head (c := ']') ?_
  have hcurrent := h.current_eq ▸ hzero
  simpa only [operate, repeatLoop, hcurrent, if_true] using h

theorem repeat_nonzero (h : machine.Shows code (position + 1 + body.text.length) s)
    (hzero : s.current ≠ 0)
    (hstands : Stands code position ('[' :: (body.text ++ ']' :: after))) :
    ∃ next, Leads 1 machine next ∧ next.Shows code (position + 1) s := by
  refine h.exists_step hstands.tail.skip.head (c := ']') ?_
  have hopening := opening?_loop (balanced_text body) hstands
  rw [h.current_eq] at hzero
  obtain ⟨rfl, hcursor, hfault, rfl⟩ := h
  simp only [operate, repeatLoop, hzero, if_false, hcursor, hopening]
  exact ⟨rfl, rfl, hfault, rfl⟩

-- From the end of a loop the machine goes on as from its start, so a body that has run once is
-- as good as a loop that has not begun.
theorem exists_turn (h : machine.Shows code (position + 1 + body.text.length) s)
    (hstands : Stands code position ('[' :: (body.text ++ ']' :: after))) :
    ∃ first : TapeMachine, first.Shows code position s ∧
      ∀ fuel, machine.walk (fuel + 1) = first.walk (fuel + 1) := by
  have hfirst : Shows { machine with cursor := position } code position s :=
    ⟨h.code_eq, rfl, h.fault_eq, h.workspace_eq⟩
  refine ⟨_, hfirst, ?_⟩
  intro fuel
  by_cases hzero : s.current = 0
  · obtain ⟨next, hleads, hnext⟩ := h.repeat_zero hzero hstands
    obtain ⟨other, hleads', hother⟩ := hfirst.enter_zero hzero hstands
    rw [hleads, hleads', hnext.unique hother]
  · obtain ⟨next, hleads, hnext⟩ := h.repeat_nonzero hzero hstands
    obtain ⟨other, hleads', hother⟩ := hfirst.enter_nonzero hzero hstands
    rw [hleads, hleads', hnext.unique hother]

end Loop

end Shows

end TapeMachine

end Switchboard
