import Switchboard.Domain
import Switchboard.Json.Document

namespace Switchboard

-- How events are written for whoever follows a run.
inductive LogFormat where
  | json
  | compact
deriving DecidableEq, Repr

namespace LogFormat

def name : LogFormat → String
  | .json => "json"
  | .compact => "compact"

instance : Choice LogFormat where
  all := [.json, .compact]
  name := name

end LogFormat

-- All settings of a run.
structure Config where
  logFilter : String
  logFormat : LogFormat
  domain : Domain
  tapeLength : UInt64
deriving DecidableEq, Repr

namespace Config

def standard : Config where
  logFilter := "info"
  logFormat := .compact
  domain := .i32
  tapeLength := 30000

instance : Inhabited Config := ⟨standard⟩

-- The names that settings have in files and other documents.
def logFilterKey : String := "log_filter"

def logFormatKey : String := "log_format"

def domainKey : String := "numeric_domain"

def tapeLengthKey : String := "tape_length"

def toJson (config : Config) : Json :=
  .object [
    (logFilterKey, .text config.logFilter),
    (logFormatKey, .text config.logFormat.name),
    (domainKey, .text config.domain.name),
    (tapeLengthKey, .integer config.tapeLength.toNat)]

end Config

end Switchboard
