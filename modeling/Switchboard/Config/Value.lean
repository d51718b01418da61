import Switchboard.Config.Basic
import Switchboard.Decimal.Shortest
import Switchboard.Text.Quoted

namespace Switchboard

-- A value as it is found in a file or in the environment, before it is known which setting it
-- is for.
inductive Value where
  | null
  | flag (value : Bool)
  | integer (value : Int)
  | real (value : Float)
  | text (value : String)
  | array (items : List Value)
  | table (entries : List (String × Value))

-- Why a value cannot be that of a setting.
inductive SettingFault where
  | wrongKind (found expected : String)
  | wrongValue (found expected : String)
  | unknownName (given : String) (names : List String)
deriving DecidableEq, Repr

namespace SettingFault

private def marked (name : String) : String := "`" ++ name ++ "`"

private def alternatives : List String → String
  | [] => "nothing"
  | [name] => marked name
  | [first, second] => marked first ++ " or " ++ marked second
  | names => "one of " ++ ", ".intercalate (names.map marked)

def message : SettingFault → String
  | .wrongKind found expected => "invalid type: " ++ found ++ ", expected " ++ expected
  | .wrongValue found expected => "invalid value: " ++ found ++ ", expected " ++ expected
  | .unknownName given names =>
      "unknown variant " ++ marked given ++ ", expected " ++ alternatives names

end SettingFault

namespace Value

-- A value as a message shows it.
def shown : Value → String
  | .null => "null"
  | .flag value => "boolean `" ++ (if value then "true" else "false") ++ "`"
  | .integer value => "integer `" ++ toString value ++ "`"
  | .real value => "floating point `" ++ Decimal.shortest value ++ "`"
  | .text value => "string " ++ Text.quoted value
  | .array _ => "sequence"
  | .table _ => "map"

def toText : Value → Except SettingFault String
  | .text value => .ok value
  | other => .error (.wrongKind other.shown "a string")

def toLength : Value → Except SettingFault UInt64
  | .integer value =>
      if (Numeral.Range.unsigned 64).contains value then .ok (UInt64.ofNat value.toNat)
      else .error (.wrongValue (shown (.integer value)) "usize")
  | other => .error (.wrongKind other.shown "usize")

def chosen {α : Type} [Choice α] (name : String) : Except SettingFault α :=
  match Choice.ofName? name with
  | some value => .ok value
  | none => .error (.unknownName name (Choice.names α))

-- A name may also stand as the only key of a table, with nothing as its value.
def toChoice {α : Type} [Choice α] : Value → Except SettingFault α
  | .text name => chosen name
  | .table [(name, value)] => do
      let choice ← chosen name
      match value with
      | .null => return choice
      | other => throw (.wrongKind other.shown "unit")
  | .table entries => .error (.wrongValue (shown (.table entries)) "map with a single key")
  | other => .error (.wrongKind other.shown "string or map")

end Value

-- What one source says about the settings, by key.
abbrev Layer := List (String × Value)

namespace Layer

mutual

-- A layer has no place for reals that are not finite.
def finiteValue : Value → Value
  | .real value => if value.isFinite then .real value else .null
  | .array items => .array (finiteItems items)
  | .table entries => .table (finiteEntries entries)
  | other => other

def finiteItems : List Value → List Value
  | [] => []
  | item :: rest => finiteValue item :: finiteItems rest

def finiteEntries : List (String × Value) → List (String × Value)
  | [] => []
  | (key, value) :: rest => (key, finiteValue value) :: finiteEntries rest

end

def finite (layer : Layer) : Layer := finiteEntries layer

def find? (layer : Layer) (key : String) : Option Value :=
  (List.find? (fun entry => entry.1 == key) layer).map (·.2)

-- A key that stands in no layer keeps the standard value.
def settingOr {α : Type} (layer : Layer) (key : String)
    (decode : Value → Except SettingFault α) (standard : α) : Except SettingFault α :=
  match layer.find? key with
  | some value => decode value
  | none => .ok standard

-- Keys without a setting are passed over. Of several wrong settings the first is reported.
def toConfig (layer : Layer) : Except SettingFault Config := do
  let standard := Config.standard
  let logFilter ← layer.settingOr Config.logFilterKey Value.toText standard.logFilter
  let logFormat ← layer.settingOr Config.logFormatKey Value.toChoice standard.logFormat
  let domain ← layer.settingOr Config.domainKey Value.toChoice standard.domain
  let tapeLength ← layer.settingOr Config.tapeLengthKey Value.toLength standard.tapeLength
  return { logFilter, logFormat, domain, tapeLength }

def put (key : String) (value : Value) : Layer → Layer
  | [] => [(key, value)]
  | (other, kept) :: rest =>
      if other = key then (key, value) :: rest else (other, kept) :: put key value rest

mutual

-- Tables that are merged keep what only one of them has, and of two other values the upper wins.
def mergeValue : Value → Value → Value
  | .table upper, .table lower => .table (mergeEntries upper lower)
  | upper, _ => upper

def mergeEntries : List (String × Value) → List (String × Value) → List (String × Value)
  | [], lower => lower
  | (key, value) :: rest, lower =>
      let value := match (List.find? (fun entry => entry.1 == key) lower) with
        | some (_, below) => mergeValue value below
        | none => value
      mergeEntries rest (put key value lower)

end

-- The settings of the upper layer, and below them those of the lower one.
def above (upper lower : Layer) : Layer := mergeEntries upper lower

end Layer

end Switchboard
