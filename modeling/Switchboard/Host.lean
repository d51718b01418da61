import Switchboard.Command.Act
import Switchboard.Config.Load
import Switchboard.Log.Filter
import Switchboard.Log.Line

namespace Switchboard

namespace ConfigFlags

-- How an item in front of a command gives a flag, if it does.
inductive Use where
  | withValue
  | beforeValue
deriving DecidableEq, Repr

def use? (item : SystemText) : Option Use :=
  let (name, value) := CommandLine.cutAt '=' item.shown.toList
  if names.contains (String.ofList name) then
    some (if value.isSome then .withValue else .beforeValue)
  else Option.none

-- The flags at the front of a command line, its own name included, and how many items they are.
structure Split where
  flags : List SystemText
  start : Nat
deriving DecidableEq, Repr

namespace Split

def taking (split : Split) (item : SystemText) : Split :=
  ⟨split.flags ++ [item], split.start + 1⟩

-- One item after another. An item that a flag waits for is taken without being looked at.
def walk (split : Split) : (awaited : Bool) → List SystemText → Split
  | _, [] => split
  | true, item :: rest => (split.taking item).walk false rest
  | false, item :: rest =>
      match use? item with
      | .none => split
      | some use => (split.taking item).walk (use = .beforeValue) rest

def ofArguments : List SystemText → Split
  | [] => ⟨[], 0⟩
  | program :: rest => walk ⟨[program], 1⟩ false rest

-- The command line without those flags.
def remaining (split : Split) (arguments : List SystemText) : List SystemText :=
  arguments.head?.toList ++ arguments.drop split.start

end Split

end ConfigFlags

-- Why a run fails.
inductive HostFault where
  | overview (text : String)
  | refused (refusal : CommandLine.Refusal)
  | config (cause : ConfigFault)
  | filter (cause : Log.FilterFault)
  | command (cause : CommandFault)
  | serialise
  | write
deriving Repr

namespace HostFault

def ofWriter : Report.Writer → HostFault
  | .serialiser => .serialise
  | .lines => .write

def ofHalt : Halt → HostFault
  | .fault cause => .command cause
  | .closed writer => .ofWriter writer

def closedText : String := "stdout closed"

def message : HostFault → String
  | .overview text => text
  | .refused refusal => refusal.message
  | .config cause => "failed to load configuration: " ++ cause.message
  | .filter cause => "invalid log filter: " ++ cause.message
  | .command cause => cause.message
  | .serialise => "failed to serialise output: " ++ closedText
  | .write => "failed to write output: " ++ closedText

end HostFault

-- What is left of a run: its success, all that it wrote, and what it told on the way.
structure Outcome where
  succeeded : Bool
  stdout : List UInt8
  stderr : String
  log : List Event
  logFormat : LogFormat
deriving Repr

namespace Outcome

-- All that is written besides the output: a line for each event, and the fault at the end.
def stderrWith (outcome : Outcome) (time : String) : String :=
  String.join (outcome.log.map fun event => event.line outcome.logFormat time ++ "\n") ++
    outcome.stderr

end Outcome

-- What a run has written to its two streams.
structure Streams where
  output : Stream
  errors : String
deriving DecidableEq, Repr

namespace Streams

def report (streams : Streams) (fault : HostFault) : Streams :=
  { streams with errors := streams.errors ++ fault.message ++ "\n" }

def outcome (streams : Streams) (succeeded : Bool) : Outcome :=
  ⟨succeeded, streams.output.taken, streams.errors, [], .compact⟩

-- What is left when a run ends. If it is by a fault, the fault is reported at last.
def conclude (streams : Streams) : Except HostFault Unit → Outcome
  | .ok () => streams.outcome true
  | .error fault => (streams.report fault).outcome false

end Streams

-- What runs a command line.
structure Host where
  -- How many steps a tape program may take.
  fuel : Nat
  -- How many bytes the output takes before it is closed, if it ever is.
  room : Option Nat
  -- A process of its own writes a log, and a wrong filter for it is a fault.
  keepsLog : Bool

namespace Host

def opened (host : Host) : Streams := ⟨⟨host.room, []⟩, ""⟩

-- A text that was asked for needs no explanation when it cannot be written.
def answer (host : Host) (text : String) : Outcome :=
  let (whole, output) := host.opened.output.write (Text.Utf8.encode text)
  { host.opened with output }.outcome whole

-- The journal that the settings ask for.
def openLog (host : Host) (config : Config) (journal : Journal) :
    Except HostFault Journal :=
  if host.keepsLog then
    match Log.Filter.read config.logFilter with
    | .ok filter => .ok ⟨filter.admits, []⟩
    | .error cause => .error (.filter cause)
  else .ok journal

def withLog (host : Host) (config : Config) (journal : Journal) (outcome : Outcome) :
    Outcome :=
  if host.keepsLog then { outcome with log := journal.events, logFormat := config.logFormat }
  else outcome

-- Carries out a command with its settings. There is no outcome when the fuel is used up.
def execute (host : Host) (order : Order) (config : Config) (journal : Journal) :
    Reading (Option Outcome × Journal) := do
  match ← order.command.source with
  | .error cause => return (some (host.opened.conclude (.error (.command cause))), journal)
  | .ok code =>
      let act := order.command.carryOut host.keepsLog host.fuel config code order.format
      match (act.run.run host.opened.output).run.run journal with
      | (none, journal) => return (none, journal)
      | (some (result, output), journal) =>
          let outcome := { host.opened with output }.conclude (result.mapError .ofHalt)
          return (some (host.withLog config journal outcome), journal)

-- Runs a command line, the program's own name first. Flags in front of the command are settings,
-- and a wrong command is reported before a wrong setting.
def run (host : Host) (arguments : List SystemText) (environment : Environment)
    (journal : Journal) : Reading (Option Outcome × Journal) := do
  let called := arguments.head?.bind Order.calledName?
  let split := ConfigFlags.Split.ofArguments arguments
  let refuse (fault : HostFault) := some (host.opened.conclude (.error fault))
  match Order.read called (split.remaining arguments).tail with
  | .error (.answer text) => return (some (host.answer text), journal)
  | .error (.overview text) => return (refuse (.overview text), journal)
  | .error (.refused refusal) => return (refuse (.refused refusal), journal)
  | .ok order =>
      match ← Config.load called split.flags.tail environment with
      | .error cause => return (refuse (.config cause), journal)
      | .ok config =>
          match host.openLog config journal with
          | .error fault => return (refuse fault, journal)
          | .ok journal => host.execute order config journal

end Host

end Switchboard
