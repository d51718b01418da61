import Switchboard.Table
import Switchboard.Tape
import Switchboard.TapeMachine.Bracket

namespace Switchboard

-- Why a tape machine cannot be made, loaded or run on. Positions count characters of the code.
inductive TapeFault where
  | pointerUnderflow (position : Nat)
  | pointerOverflow (last position : Nat)
  | tapeTooLarge (length limit : Nat)
  | unbalancedBracket (bracket : Char) (position : Nat)
  | unroutable (cause : DispatchError)
deriving DecidableEq, Repr

namespace TapeFault

def message : TapeFault → String
  | .pointerUnderflow position =>
      "tape pointer moved left of cell 0 at code position " ++ toString position
  | .pointerOverflow last position =>
      "tape pointer moved past cell " ++ toString last ++ " at code position " ++
        toString position
  | .tapeTooLarge length limit =>
      "tape length " ++ toString length ++ " exceeds the limit of " ++ toString limit ++ " cells"
  | .unbalancedBracket bracket position =>
      "unmatched '" ++ String.singleton bracket ++ "' at code position " ++ toString position
  | .unroutable cause => cause.message

end TapeFault

-- A machine that walks over the characters of its code. A character that is an operator changes
-- the tape, the queues or the place in the code; every other one is a comment. An operator that
-- cannot do its work leaves a fault behind.
structure TapeMachine where
  tape : Tape
  code : Array Char
  cursor : Nat
  input : List UInt8
  output : Array UInt8
  fault : Option TapeFault

namespace TapeMachine

def standardLength : Nat := 30000

def lengthLimit : Nat := 16777216

def ofLength (length : Nat) : Except TapeFault TapeMachine :=
  if lengthLimit < length then .error (.tapeTooLarge length lengthLimit)
  else .ok {
    tape := .blank length
    code := #[]
    cursor := 0
    input := []
    output := #[]
    fault := none }

-- Queued input and undrained output outlive the program.
def clear (machine : TapeMachine) : TapeMachine :=
  { machine with tape := machine.tape.cleared, code := #[], cursor := 0, fault := none }

-- A program with a bracket of its own is refused, and the earlier one stays.
def setCode (machine : TapeMachine) (code : String) : Except TapeFault Unit × TapeMachine :=
  match Bracket.unmatched? code.toList with
  | some (bracket, position) => (.error (.unbalancedBracket bracket position), machine)
  | none => (.ok (), { machine with code := code.toList.toArray, cursor := 0 })

def pushInput (machine : TapeMachine) (bytes : List UInt8) : TapeMachine :=
  { machine with input := machine.input ++ bytes }

def takeOutput (machine : TapeMachine) : Array UInt8 × TapeMachine :=
  (machine.output, { machine with output := #[] })

def failed (machine : TapeMachine) (fault : TapeFault) : TapeMachine :=
  { machine with fault := some fault }

def moveRight (machine : TapeMachine) : TapeMachine :=
  match machine.tape.right? with
  | some tape => { machine with tape }
  | none => machine.failed (.pointerOverflow (machine.tape.size - 1) machine.cursor)

def moveLeft (machine : TapeMachine) : TapeMachine :=
  match machine.tape.left? with
  | some tape => { machine with tape }
  | none => machine.failed (.pointerUnderflow machine.cursor)

def increment (machine : TapeMachine) : TapeMachine :=
  { machine with tape := machine.tape.write (machine.tape.current + 1) }

def decrement (machine : TapeMachine) : TapeMachine :=
  { machine with tape := machine.tape.write (machine.tape.current - 1) }

def print (machine : TapeMachine) : TapeMachine :=
  { machine with output := machine.output.push machine.tape.current }

-- An empty queue leaves the cell alone.
def read (machine : TapeMachine) : TapeMachine :=
  match machine.input with
  | [] => machine
  | byte :: rest => { machine with tape := machine.tape.write byte, input := rest }

def enterLoop (machine : TapeMachine) : TapeMachine :=
  if machine.tape.current ≠ 0 then machine
  else match Bracket.closing? machine.code 0 (machine.cursor + 1) with
    | some position => { machine with cursor := position }
    | none => machine.failed (.unbalancedBracket '[' machine.cursor)

def repeatLoop (machine : TapeMachine) : TapeMachine :=
  if machine.tape.current = 0 then machine
  else match Bracket.opening? machine.code 0 machine.cursor with
    | some position => { machine with cursor := position }
    | none => machine.failed (.unbalancedBracket ']' machine.cursor)

instance : Handler TapeMachine where
  methods := [
    Method.stringSink fun machine _ => machine,
    (Method.action "increment_pointer" moveRight).answersTo ">",
    (Method.action "decrement_pointer" moveLeft).answersTo "<",
    (Method.action "increment" increment).answersTo "+",
    (Method.action "decrement" decrement).answersTo "-",
    (Method.action "print" print).answersTo ".",
    (Method.action "input" read).answersTo ",",
    (Method.action "jump_forward" enterLoop).answersTo "[",
    (Method.action "jump_backward" repeatLoop).answersTo "]",
    (Method.helper "clear" 0 true).hidden,
    (Method.helper "set_code" 1 false).hidden,
    (Method.helper "execute" 0 false).hidden]

-- All machines share one table. The method set above has no fault, so the other case is idle.
def table : Table TapeMachine :=
  match MethodSet.ofMethods (Handler.methods (H := TapeMachine)) with
  | .ok set => .ofMethodSet set default
  | .error _ => .ofMethodSet .empty default

def eventTarget : String := "textdispatch-demos::brainf"

-- Runs the code from the cursor on, one character for each unit of fuel. The answer is `none`
-- when the fuel is used up before the run ends. A fault stops the run at its character, and it
-- is handed over instead of being left behind.
def runFrom : (fuel : Nat) → TapeMachine → Logged (Option (Except TapeFault Unit) × TapeMachine)
  | 0, machine => return (none, machine)
  | fuel + 1, machine =>
      match machine.code[machine.cursor]? with
      | none => return (some (.ok ()), machine)
      | some c => do
          match ← table.dispatch machine (String.singleton c) with
          | (.error cause, machine) => return (some (.error (.unroutable cause)), machine)
          | (.ok _, machine) =>
              match machine.fault with
              | some fault => return (some (.error fault), { machine with fault := none })
              | none => runFrom fuel { machine with cursor := machine.cursor + 1 }

def execute (fuel : Nat) (machine : TapeMachine) :
    Logged (Option (Except TapeFault Unit) × TapeMachine) := do
  tell {
    level := .debug
    target := eventTarget
    message := "executing program"
    fields := [("length", .count machine.code.size)] }
  let (outcome, machine) ← runFrom fuel machine
  if let some (.ok ()) := outcome then
    tell {
      level := .debug
      target := eventTarget
      message := "program finished"
      fields := [("output", .count machine.output.size)] }
  return (outcome, machine)

-- A run from a clean start. The answer holds the bytes that this run printed.
def run (fuel : Nat) (machine : TapeMachine) (code : String) :
    Logged (Option (Except TapeFault (Array UInt8)) × TapeMachine) := do
  let machine := { machine.clear with output := #[] }
  match machine.setCode code with
  | (.error fault, machine) => return (some (.error fault), machine)
  | (.ok (), machine) =>
      match ← execute fuel machine with
      | (none, machine) => return (none, machine)
      | (some (.error fault), machine) => return (some (.error fault), machine)
      | (some (.ok ()), machine) =>
          let (bytes, machine) := machine.takeOutput
          return (some (.ok bytes), machine)

end TapeMachine

end Switchboard
