import Switchboard.Config.Flags
import Switchboard.Files.Reading
import Switchboard.Toml.Document
import Switchboard.Toml.Edition

namespace Switchboard

-- Why a configuration file has no settings to give.
inductive FileSettingsFault where
  | absent
  | unreadable (cause : FileFault)
  | malformed (report : String)
  | basisNotText (kind : String)
  | basisEmpty
  | basisAbsent (basis file : String)
  | nameless
  | notFile
  | unknownFormat (name feature : String)
deriving DecidableEq, Repr

namespace FileSettingsFault

def message : FileSettingsFault → String
  | .absent => "required configuration file not found"
  | .unreadable cause => cause.message
  | .malformed report => report
  | .basisNotText kind => "'extends' key must be a string, but found type: " ++ kind
  | .basisEmpty => "'extends' key must be a non-empty string"
  | .basisAbsent basis file =>
      "extended configuration file '" ++ basis ++ "' does not exist (referenced from '" ++ file ++
        "')"
  | .nameless => "cannot determine file name for configuration file path"
  | .notFile => "configuration path is not a regular file"
  | .unknownFormat name feature =>
      name ++ " feature disabled: enable the '" ++ feature ++
        "' feature to support this file format"

end FileSettingsFault

-- Why there is no configuration.
inductive ConfigFault where
  | flags (text : String)
  | file (path : String) (cause : FileSettingsFault)
  | cycle (paths : List String)
  | document (report : String)
  | setting (cause : SettingFault)
  | several (faults : List ConfigFault)
deriving Repr

namespace ConfigFault

private def numbered : Nat → List String → List String
  | _, [] => []
  | place, text :: rest => (toString place ++ ": " ++ text) :: numbered (place + 1) rest

mutual

def message : ConfigFault → String
  | .flags text => "Failed to parse command-line arguments: " ++ text
  | .file path cause => "Configuration file error in '" ++ path ++ "': " ++ cause.message
  | .cycle paths => "cyclic extends detected: " ++ " -> ".intercalate paths
  | .document report =>
      "Failed to merge CLI with configuration: " ++ report ++ " in TOML source string"
  | .setting cause => "Failed to merge CLI with configuration: " ++ cause.message
  | .several faults => "multiple configuration errors:\n" ++
      "\n".intercalate (numbered 1 (messages faults))

private def messages : List ConfigFault → List String
  | [] => []
  | fault :: rest => fault.message :: messages rest

end

end ConfigFault

end Switchboard
