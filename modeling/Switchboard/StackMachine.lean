import Switchboard.Table
import Switchboard.Text.Blank

namespace Switchboard

-- Why a word cannot be executed.
inductive StackFault where
  | stackUnderflow (word : String) (needed depth : Nat)
  | divisionByZero (word : String)
  | unroutable (cause : DispatchError)
deriving DecidableEq, Repr

namespace StackFault

def message : StackFault → String
  | .stackUnderflow word needed depth =>
      "'" ++ word ++ "' needs " ++ toString needed ++ " cell(s) but the stack holds " ++
        toString depth
  | .divisionByZero word => "'" ++ word ++ "' divided by zero"
  | .unroutable cause => cause.message

end StackFault

-- A machine that reads words. A number goes onto the stack, and every other word works on its
-- top or prints it. The top is the first of the list. A word that cannot do its work leaves a
-- fault behind and the stack as it was.
structure StackMachine where
  stack : List Int64
  output : String
  fault : Option StackFault
deriving Repr

namespace StackMachine

def empty : StackMachine := ⟨[], "", none⟩

-- Bottom first, the way a stack is read out.
def cells (machine : StackMachine) : List Int64 := machine.stack.reverse

def depth (machine : StackMachine) : Nat := machine.stack.length

def takeOutput (machine : StackMachine) : String × StackMachine :=
  (machine.output, { machine with output := "" })

def underflow (machine : StackMachine) (word : String) (needed : Nat) : StackMachine :=
  { machine with fault := some (.stackUnderflow word needed machine.depth) }

def push (machine : StackMachine) (value : Int64) : StackMachine :=
  { machine with stack := value :: machine.stack }

-- The operand on top is the right one.
def binary (word : String) (op : Int64 → Int64 → Option Int64) (machine : StackMachine) :
    StackMachine :=
  match machine.stack with
  | right :: left :: rest =>
      match op left right with
      | some value => { machine with stack := value :: rest }
      | none => { machine with fault := some (.divisionByZero word) }
  | _ => machine.underflow word 2

def plus : StackMachine → StackMachine := binary "+" fun left right => some (left + right)

def minus : StackMachine → StackMachine := binary "-" fun left right => some (left - right)

def times : StackMachine → StackMachine := binary "*" fun left right => some (left * right)

-- Division goes toward zero, and the quotient that does not fit wraps around.
def divide : StackMachine → StackMachine :=
  binary "/" fun left right => if right = 0 then none else some (left / right)

def remainder : StackMachine → StackMachine :=
  binary "%" fun left right => if right = 0 then none else some (left % right)

def print (machine : StackMachine) : StackMachine :=
  match machine.stack with
  | top :: rest =>
      { machine with stack := rest, output := machine.output ++ toString top.toInt ++ " " }
  | [] => machine.underflow "." 1

def drop (machine : StackMachine) : StackMachine :=
  match machine.stack with
  | _ :: rest => { machine with stack := rest }
  | [] => machine.underflow "drop" 1

def dup (machine : StackMachine) : StackMachine :=
  match machine.stack with
  | top :: rest => { machine with stack := top :: top :: rest }
  | [] => machine.underflow "dup" 1

def largestCell : Nat := 9223372036854775807

-- A depth that no cell has room for shows as the largest cell.
def deep (machine : StackMachine) : StackMachine :=
  machine.push (Int64.ofNat (min machine.depth largestCell))

def swap (machine : StackMachine) : StackMachine :=
  match machine.stack with
  | top :: next :: rest => { machine with stack := next :: top :: rest }
  | _ => machine.underflow "swap" 2

instance : Handler StackMachine where
  methods := [
    Method.integerSink push,
    (Method.action "plus" plus).answersTo "+",
    (Method.action "minus" minus).answersTo "-",
    (Method.action "mult" times).answersTo "*",
    (Method.action "div" divide).answersTo "/",
    (Method.action "mod" remainder).answersTo "%",
    (Method.action "print" print).answersTo ".",
    Method.action "drop" drop,
    Method.action "dup" dup,
    Method.action "deep" deep,
    Method.action "swap" swap,
    (Method.helper "exec_line" 1 false).hidden]

def eventTarget : String := "textdispatch-demos::forth"

-- A word that leaves a fault ends the line, and so does one that nothing takes. The fault is
-- looked for after every word that was taken, also one that was there before the line.
def runWords (table : Table StackMachine) : StackMachine → List String →
    Logged (Except StackFault Unit × StackMachine)
  | machine, [] => return (.ok (), machine)
  | machine, word :: rest => do
      match ← table.dispatch machine word with
      | (.error cause, machine) => return (.error (.unroutable cause), machine)
      | (.ok _, machine) =>
          match machine.fault with
          | some fault => return (.error fault, { machine with fault := none })
          | none => runWords table machine rest

def runLine (table : Table StackMachine) (machine : StackMachine) (line : String) :
    Logged (Except StackFault Unit × StackMachine) := do
  tell {
    level := .debug
    target := eventTarget
    message := "executing line"
    fields := [("line", .text line)] }
  runWords table machine (Text.words line)

-- Lines that show the machine at work, each with what it prints.
def selfTest : List (String × String) := [
  ("100", "50 50 + dup ."),
  ("30", "drop 30 60 swap - ."),
  ("2", "2 3 % ."),
  ("0", "deep .")]

end StackMachine

end Switchboard
