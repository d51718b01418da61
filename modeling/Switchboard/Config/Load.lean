import Switchboard.Config.Files

namespace Switchboard

namespace Config

open CommandLine

def flagsText : Stop → String
  | .answer text => text
  | .overview text => text
  | .refused refusal => refusal.message

-- The settings of three layers, the first of them uppermost.
def ofLayers (flags environment file : Layer) : Except ConfigFault Config :=
  match ((flags.above environment).above file).toConfig with
  | .ok config => .ok config
  | .error fault => .error (.setting fault)

-- Settings that were found beside faults do not count, but a fault in them does.
def conclude (faults : List ConfigFault) (result : Except ConfigFault Config) :
    Except ConfigFault Config :=
  let faults := match result with
    | .ok _ => faults
    | .error fault => faults ++ [fault]
  match faults with
  | [] => result
  | [fault] => .error fault
  | faults => .error (.several faults)

-- All sources are read before a fault in one of them is reported.
def load (called : Option String) (items : List SystemText) (environment : Environment) :
    Reading (Except ConfigFault Config) := do
  let (flagFaults, flags) := match ConfigFlags.read called items with
    | .ok flags => ([], flags)
    | .error stop => ([ConfigFault.flags (flagsText stop)], ConfigFlags.none)
  let (fileFaults, file) ← ConfigFiles.find flags environment
  return conclude (flagFaults ++ fileFaults)
    (ofLayers flags.layer (Environment.layer environment) file)

end Config

end Switchboard
