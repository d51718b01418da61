import Switchboard.Config.Basic
import Switchboard.Journal
import Switchboard.Text.Layout
import Switchboard.Text.Quoted

namespace Switchboard

namespace FieldValue

-- Text is quoted, and all else stands as it is.
def marked : FieldValue → String
  | .text value => Text.quoted value
  | other => other.rendering

def toJson : FieldValue → Json
  | .text value => .text value
  | .word value => .text value
  | .flag value => .flag value
  | .count value => .integer value

end FieldValue

namespace Event

private def fieldText (field : String × FieldValue) : String :=
  " " ++ field.1 ++ "=" ++ field.2.marked

-- One line for people.
def compactLine (time : String) (event : Event) : String :=
  time ++ " " ++ Text.padLeft 5 event.level.name ++ " " ++ event.target ++ ": " ++
    event.message ++ String.join (event.fields.map fieldText)

-- One line for tools.
def jsonLine (time : String) (event : Event) : String :=
  (Json.object ([("timestamp", .text time), ("level", .text event.level.name),
    ("message", .text event.message)] ++
    event.fields.map (fun field => (field.1, field.2.toJson)) ++
    [("target", .text event.target)])).compact

def line (format : LogFormat) (time : String) (event : Event) : String :=
  match format with
  | .compact => event.compactLine time
  | .json => event.jsonLine time

end Event

end Switchboard
