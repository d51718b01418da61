import Switchboard.Command.Report
import Switchboard.Config.Basic
import Switchboard.Files.Reading
import Switchboard.Showcase
import Switchboard.TapeMachine.Machine
import Switchboard.TapeMachine.Samples

namespace Switchboard

-- Why a command has nothing to tell.
inductive CommandFault where
  | noProgram
  | unreadable (path : String) (cause : FileFault)
  | tape (cause : TapeFault)
  | stack (cause : StackFault)
  | showcase (cause : ShowcaseFault)
  | compile (cause : CompileError)
  | codec (cause : CodecError)
deriving DecidableEq, Repr

namespace CommandFault

def message : CommandFault → String
  | .noProgram => "bf needs a program: pass a FILE or --code"
  | .unreadable path cause => "failed to read program '" ++ path ++ "': " ++ cause.message
  | .tape cause => "brainf: " ++ cause.message
  | .stack cause => "forth: " ++ cause.message
  | .showcase cause => "showcase: " ++ cause.message
  | .compile cause => "failed to compile handler: " ++ cause.message
  | .codec cause => cause.message

end CommandFault

-- A run that may use up its fuel, which is told by `none`.
abbrev Run (α : Type) := ExceptT CommandFault (OptionT Logged) α

namespace Command

def eventTarget : String := "textdispatch-cli::command"

def exhausted {α : Type} : Run α := ExceptT.mk (OptionT.mk (pure none))

def orFault {ε α : Type} (wrap : ε → CommandFault) (result : Except ε α) : Run α :=
  match result with
  | .ok value => pure value
  | .error cause => throw (wrap cause)

-- The first tape machine of a process compiles the table that all of them share, and tells so.
def newMachine (announce : Bool) (config : Config) : Run TapeMachine := do
  if announce then
    let table ← Handler.compileTable TapeMachine default
    let _ ← orFault .compile table
  orFault .tape (TapeMachine.ofLength config.tapeLength.toNat)

def runTape (fuel : Nat) (machine : TapeMachine) (code : String) :
    Run (Array UInt8 × TapeMachine) := do
  match ← machine.run fuel code with
  | (none, _) => exhausted
  | (some (.error cause), _) => throw (.tape cause)
  | (some (.ok printed), machine) => return (printed, machine)

def runLine (table : Table StackMachine) (machine : StackMachine) (line : String) :
    Run StackMachine := do
  match ← machine.runLine table line with
  | (.error cause, _) => throw (.stack cause)
  | (.ok (), machine) => return machine

def stackTable (config : Config) : Run (Table StackMachine) := do
  orFault .compile (← Handler.compileTable StackMachine config.domain)

def summaryOf (H : Type) [Handler H] (config : Config) : Run Summary := do
  let table ← orFault .compile (← Handler.compileTable H config.domain)
  return table.summary

def namedSummary (config : Config) : HandlerName → Run Summary
  | .brainf => summaryOf TapeMachine config
  | .forth => summaryOf StackMachine config
  | .showcase => summaryOf Showcase config
  | .second => summaryOf Companion config

def catalogOf (H : Type) [Handler H] : Run Catalog := do
  orFault .compile (← Handler.compileCatalog H)

def namedCatalog : HandlerName → Run Catalog
  | .brainf => catalogOf TapeMachine
  | .forth => catalogOf StackMachine
  | .showcase => catalogOf Showcase
  | .second => catalogOf Companion

-- All of the stream must be known, or none of it is coded.
def encodeAll (catalog : Catalog) (tokens : List String) : Except CodecError (List UInt16) :=
  tokens.mapM catalog.encode

def decodeAll (catalog : Catalog) (ids : List UInt16) : Except CodecError (List String) :=
  ids.mapM catalog.decode

-- The code of a tape program, from a file or from the command line itself.
def source : Command → Reading (Except CommandFault (Option String))
  | .tape (some path) _ _ => do
      match (← Reading.file (.text path)) >>= FoundFile.text with
      | .ok code => return .ok (some code)
      | .error cause => return .error (.unreadable path cause)
  | .tape none code _ =>
      return match code with
        | some code => .ok (some code)
        | none => .error .noProgram
  | _ => return .ok none

end Command

end Switchboard
