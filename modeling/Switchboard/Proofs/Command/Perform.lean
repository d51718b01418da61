import Switchboard.Command.Act

namespace Switchboard

-- What a command comes to, as a report that is handed over instead of being written. Nothing of it
-- knows of an output or a format.
namespace Command

def tapeReport (announce : Bool) (fuel : Nat) (config : Config) (code input : String) :
    Run Report := do
  let machine ← newMachine announce config
  let machine := machine.pushInput (Text.Utf8.encode input)
  let (printed, machine) ← runTape fuel machine code
  tell (Act.finishedEvent printed)
  return .tape printed.toList machine.tape.head

def runLines (table : Table StackMachine) : StackMachine → List String → Run StackMachine
  | machine, [] => pure machine
  | machine, line :: rest => do runLines table (← runLine table machine line) rest

def stackReport (config : Config) (lines : List String) : Run Report := do
  let table ← stackTable config
  let machine ← runLines table .empty lines
  return .stack (Text.trimEnd machine.output) machine.cells

def runSamples (fuel : Nat) : TapeMachine → List (String × String) → Run (List String)
  | _, [] => pure []
  | machine, (code, expected) :: rest => do
      let (printed, machine) ← runTape fuel machine code
      return Act.sampleLine printed expected :: (← runSamples fuel machine rest)

def runChecks (table : Table StackMachine) : StackMachine → List (String × String) →
    Run (List Check)
  | _, [] => pure []
  | machine, (expected, line) :: rest => do
      let machine ← runLine table machine line
      let (printed, machine) := machine.takeOutput
      let check : Check := ⟨line, expected, Text.trimEnd printed⟩
      tell (Act.checkEvent check)
      return check :: (← runChecks table machine rest)

def demoReport (announce : Bool) (fuel : Nat) (config : Config) : Run Report := do
  let showcase ← orFault .showcase (← (Showcase.selfTest config.domain).run)
  let machine ← newMachine announce config
  let samples ← runSamples fuel machine Act.tapeSamples
  let table ← stackTable config
  let checks ← runChecks table .empty StackMachine.selfTest
  return .demo showcase samples checks

def perform (announce : Bool) (fuel : Nat) (config : Config) (code : Option String) :
    Command → Run Report
  | .tape _ _ input => tapeReport announce fuel config (code.getD "") input
  | .stack lines => stackReport config lines
  | .demo => demoReport announce fuel config
  | .describe handler => do return .description (← namedSummary config handler)
  | .encode handler tokens => do
      let catalog ← namedCatalog handler
      return .encoded (← orFault .codec (encodeAll catalog tokens))
  | .decode handler ids => do
      let catalog ← namedCatalog handler
      return .decoded (← orFault .codec (decodeAll catalog ids))

end Command

namespace Act

open Command

variable {α β : Type}

-- What is left of an output behind a command that has come to this.
def written (stream : Stream) (format : OutputFormat) :
    Except CommandFault Report → Except Halt Unit × Stream
  | .error cause => (.error (.fault cause), stream)
  | .ok report => stream.print format report

theorem run_ofRun_print (run : Run Report) (format : OutputFormat) (stream : Stream)
    (journal : Journal) :
    ((ofRun run >>= print format).run.run stream).run.run journal =
      ((run.run.run journal).1.map (written stream format), (run.run.run journal).2) := by
  simp only [ofRun, bind, ExceptT.bind, ExceptT.run, ExceptT.mk, OptionT.run, OptionT.bind,
    OptionT.mk, StateT.bind, StateT.run]
  rcases run journal with ⟨_ | _ | _, after⟩ <;> rfl

-- What is done without the output may be done part by part.
instance : LawfulMonadLift Run Act where
  monadLift_pure _ := rfl
  monadLift_bind first next := by
    change ofRun (first >>= next) = ofRun first >>= fun value => ofRun (next value)
    funext stream journal
    simp only [ofRun, bind, ExceptT.bind, ExceptT.run, ExceptT.mk, OptionT.bind, OptionT.mk,
      StateT.bind]
    rcases first journal with ⟨_ | _ | _, after⟩ <;> rfl

variable (format : OutputFormat)

-- Nothing is written before all that can fail is done. A tape program has printed by then, but
-- only to its machine.
theorem tape_eq (announce : Bool) (fuel : Nat) (config : Config) (code input : String) :
    tape announce fuel config code input format =
      (liftM (tapeReport announce fuel config code input) : Act Report) >>= print format := by
  simp only [tape, tapeReport, monadLift_bind, monadLift_pure, bind_assoc, pure_bind]
  rfl

theorem runLines_eq (table : Table StackMachine) (machine : StackMachine) (lines : List String) :
    runLines table machine lines = liftM (Command.runLines table machine lines) := by
  induction lines generalizing machine with
  | nil => rfl
  | cons line rest ih => simp only [runLines, Command.runLines, monadLift_bind, ih]

theorem stack_eq (config : Config) (lines : List String) :
    stack config lines format =
      (liftM (stackReport config lines) : Act Report) >>= print format := by
  simp only [stack, stackReport, runLines_eq, monadLift_bind, monadLift_pure, bind_assoc,
    pure_bind]

theorem runSamples_eq (fuel : Nat) (machine : TapeMachine) (samples : List (String × String)) :
    runSamples fuel machine samples = liftM (Command.runSamples fuel machine samples) := by
  induction samples generalizing machine with
  | nil => rfl
  | cons sample rest ih =>
      simp only [runSamples, Command.runSamples, monadLift_bind, monadLift_pure, ih]

theorem runChecks_eq (table : Table StackMachine) (machine : StackMachine)
    (checks : List (String × String)) :
    runChecks table machine checks = liftM (Command.runChecks table machine checks) := by
  induction checks generalizing machine with
  | nil => rfl
  | cons check rest ih =>
      simp only [runChecks, Command.runChecks, monadLift_bind, monadLift_pure, ih]
      rfl

theorem demo_eq (announce : Bool) (fuel : Nat) (config : Config) :
    demo announce fuel config format =
      (liftM (demoReport announce fuel config) : Act Report) >>= print format := by
  simp only [demo, demoReport, runSamples_eq, runChecks_eq, monadLift_bind, monadLift_pure,
    bind_assoc, pure_bind]
  rfl

end Act

namespace Command

theorem carryOut_eq (announce : Bool) (fuel : Nat) (config : Config) (code : Option String)
    (format : OutputFormat) (command : Command) :
    command.carryOut announce fuel config code format =
      (liftM (command.perform announce fuel config code) : Act Report) >>= Act.print format := by
  cases command with
  | tape file given input => exact Act.tape_eq format announce fuel config _ input
  | stack lines => exact Act.stack_eq format config lines
  | demo => exact Act.demo_eq format announce fuel config
  | describe handler =>
      simp only [carryOut, perform, monadLift_bind, monadLift_pure, bind_assoc, pure_bind]
  | encode handler tokens =>
      simp only [carryOut, perform, monadLift_bind, monadLift_pure, bind_assoc, pure_bind]
  | decode handler ids =>
      simp only [carryOut, perform, monadLift_bind, monadLift_pure, bind_assoc, pure_bind]

theorem run_carryOut (announce : Bool) (fuel : Nat) (config : Config) (code : Option String)
    (format : OutputFormat) (command : Command) (stream : Stream) (journal : Journal) :
    ((command.carryOut announce fuel config code format).run.run stream).run.run journal =
      let (answer, journal) := (command.perform announce fuel config code).run.run journal
      (answer.map (Act.written stream format), journal) := by
  rw [carryOut_eq]
  exact Act.run_ofRun_print _ format stream journal

-- A command that halts for a reason of its own has not written anything.
theorem carryOut_untouched {announce : Bool} {fuel : Nat} {config : Config} {code : Option String}
    {format : OutputFormat} {command : Command} {cause : CommandFault} {stream left : Stream}
    {journal after : Journal}
    (h : ((command.carryOut announce fuel config code format).run.run stream).run.run journal =
      (some (.error (.fault cause), left), after)) : left = stream := by
  rcases hrun : (command.perform announce fuel config code).run.run journal with
    ⟨_ | found | report, last⟩ <;>
    rw [run_carryOut, hrun] at h
  · cases h
  · cases h
    rfl
  · have hprint : some (stream.print format report) = some (.error (.fault cause), left) :=
      congrArg Prod.fst h
    rw [Stream.print] at hprint
    split at hprint <;> cases hprint

end Command

end Switchboard
