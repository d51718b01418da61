import Switchboard.Command.Run

namespace Switchboard

-- A stream that takes so many more bytes before it is closed, if it ever is.
structure Stream where
  room : Option Nat
  taken : List UInt8
deriving DecidableEq, Repr

namespace Stream

-- Takes all of the bytes, or as many as there is room for, and tells whether that is all.
def write (stream : Stream) (bytes : List UInt8) : Bool × Stream :=
  match stream.room with
  | none => (true, { stream with taken := stream.taken ++ bytes })
  | some room =>
      (bytes.length ≤ room, ⟨some (room - bytes.length), stream.taken ++ bytes.take room⟩)

-- One write after another, up to the first that does not go through. Its writer is the answer.
def writeAll {α : Type} : Stream → List (α × List UInt8) → Option α × Stream
  | stream, [] => (none, stream)
  | stream, (writer, bytes) :: rest =>
      match stream.write bytes with
      | (true, stream) => stream.writeAll rest
      | (false, stream) => (some writer, stream)

end Stream

-- Why a command does not get to its end: for a reason of its own, or because a write does not go
-- through.
inductive Halt where
  | fault (cause : CommandFault)
  | closed (writer : Report.Writer)
deriving Repr

-- Writes a report, or as much of it as goes through.
def Stream.print (stream : Stream) (format : OutputFormat) (report : Report) :
    Except Halt Unit × Stream :=
  match stream.writeAll (report.writes format) with
  | (none, stream) => (.ok (), stream)
  | (some writer, stream) => (.error (.closed writer), stream)

-- A run that has the output in its hands. What it has written stays written when it halts.
abbrev Act (α : Type) := ExceptT Halt (StateT Stream (OptionT Logged)) α

namespace Act

open Command

-- A part that is not given the output leaves it as it is.
def ofRun {α : Type} (run : Run α) : Act α :=
  ExceptT.mk fun stream => do
    let answer ← run.run
    return (answer.mapError .fault, stream)

instance : MonadLift Run Act := ⟨ofRun⟩

def print (format : OutputFormat) (report : Report) : Act Unit :=
  ExceptT.mk fun stream => return stream.print format report

def finishedEvent (printed : Array UInt8) : Event where
  level := .info
  target := eventTarget
  message := "brainf program finished"
  fields := [("bytes", .count printed.size)]

def tape (announce : Bool) (fuel : Nat) (config : Config) (code input : String)
    (format : OutputFormat) : Act Unit := do
  let machine ← newMachine announce config
  let machine := machine.pushInput (Text.Utf8.encode input)
  let (printed, machine) ← runTape fuel machine code
  tell (finishedEvent printed)
  print format (.tape printed.toList machine.tape.head)

def runLines (table : Table StackMachine) : StackMachine → List String → Act StackMachine
  | machine, [] => pure machine
  | machine, line :: rest => do runLines table (← runLine table machine line) rest

def stack (config : Config) (lines : List String) (format : OutputFormat) : Act Unit := do
  let table ← stackTable config
  let machine ← runLines table .empty lines
  print format (.stack (Text.trimEnd machine.output) machine.cells)

def tapeSamples : List (String × String) :=
  [(TapeMachine.adder, "7"), (TapeMachine.greeting, "Hello World!")]

def sampleLine (printed : Array UInt8) (expected : String) : String :=
  Text.trimEnd (String.ofList (Text.Utf8.decodeLossy printed.toList)) ++ " = " ++ expected

def runSamples (fuel : Nat) : TapeMachine → List (String × String) → Act (List String)
  | _, [] => pure []
  | machine, (code, expected) :: rest => do
      let (printed, machine) ← runTape fuel machine code
      return sampleLine printed expected :: (← runSamples fuel machine rest)

def checkEvent (check : Check) : Event where
  level := .debug
  target := eventTarget
  message := "forth self-test line"
  fields := [("line", .text check.line), ("expected", .text check.expected),
    ("actual", .text check.actual)]

def runChecks (table : Table StackMachine) : StackMachine → List (String × String) →
    Act (List Check)
  | _, [] => pure []
  | machine, (expected, line) :: rest => do
      let machine ← runLine table machine line
      let (printed, machine) := machine.takeOutput
      let check : Check := ⟨line, expected, Text.trimEnd printed⟩
      tell (checkEvent check)
      return check :: (← runChecks table machine rest)

def demo (announce : Bool) (fuel : Nat) (config : Config) (format : OutputFormat) : Act Unit := do
  let showcase ← orFault .showcase (← (Showcase.selfTest config.domain).run)
  let machine ← newMachine announce config
  let samples ← runSamples fuel machine tapeSamples
  let table ← stackTable config
  let checks ← runChecks table .empty StackMachine.selfTest
  print format (.demo showcase samples checks)

end Act

namespace Command

-- Carries out a command whose code, if it needs one, is at hand.
def carryOut (announce : Bool) (fuel : Nat) (config : Config) (code : Option String)
    (format : OutputFormat) : Command → Act Unit
  | .tape _ _ input => Act.tape announce fuel config (code.getD "") input format
  | .stack lines => Act.stack config lines format
  | .demo => Act.demo announce fuel config format
  | .describe handler => do Act.print format (.description (← namedSummary config handler))
  | .encode handler tokens => do
      let catalog ← namedCatalog handler
      let ids ← orFault .codec (encodeAll catalog tokens)
      Act.print format (.encoded ids)
  | .decode handler ids => do
      let catalog ← namedCatalog handler
      let tokens ← orFault .codec (decodeAll catalog ids)
      Act.print format (.decoded tokens)

end Command

end Switchboard
