import Switchboard.Config.Value
import Switchboard.Json.Scan

namespace Switchboard

-- A key under which a document may give a setting.
inductive Setting where
  | logFilter
  | logFormat
  | domain
  | tapeLength
deriving DecidableEq, Repr

namespace Setting

def key : Setting → String
  | .logFilter => Config.logFilterKey
  | .logFormat => Config.logFormatKey
  | .domain => Config.domainKey
  | .tapeLength => Config.tapeLengthKey

-- A document without keys gives the settings in this order.
instance : Choice Setting where
  all := [.logFilter, .logFormat, .domain, .tapeLength]
  name := key

end Setting

-- Reading all settings from the text of a document. What a document does not give keeps the
-- standard value.
namespace Config.Document

open Json.Scan

private def wrong {α : Type} (fault : SettingFault) (rest : List Char) : Read α :=
  failed (.content fault.message) rest

def accept {α : Type} (result : Except SettingFault α) (rest : List Char) :
    Read (α × List Char) :=
  match result with
  | .ok value => .ok (value, rest)
  | .error fault => wrong fault rest

def numberValue (negative : Bool) (text : List Char) : Read (Value × List Char) := do
  match ← number negative text with
  | (.integer value, rest) => return (.integer value, rest)
  | (.real value, rest) => return (.real value, rest)

-- The value that stands here. Of a list or an object nothing is read.
def found (text : List Char) : Read (Value × List Char) :=
  match text with
  | [] => failedNext .endOfValue []
  | c :: rest =>
      if c = 'n' then do return (.null, ← word ['u', 'l', 'l'] rest)
      else if c = 't' then do return (.flag true, ← word ['r', 'u', 'e'] rest)
      else if c = 'f' then do return (.flag false, ← word ['a', 'l', 's', 'e'] rest)
      else if c = '-' then numberValue true rest
      else if c.isDigit then numberValue false text
      else if c = '"' then do
        let (value, rest) ← string rest
        return (.text value, rest)
      else if c = '[' then return (.array [], text)
      else if c = '\x7b' then return (.table [], text)
      else failedNext .valueExpected text

-- Another value stands where something else is expected.
private def wrongKind {α : Type} (expected : String) (text : List Char) : Read α := do
  let (value, rest) ← found text
  wrong (.wrongKind value.shown expected) rest

-- Something behind a quote, and something else without one.
def quoted (expected : String) (text : List Char) : Read (String × List Char) :=
  match skipGaps text with
  | '"' :: rest => string rest
  | rest => wrongKind expected rest

def length (text : List Char) : Read (UInt64 × List Char) := do
  let (value, rest) ← found (skipGaps text)
  accept value.toLength rest

def colon (text : List Char) : Read (List Char) :=
  match skipGaps text with
  | ':' :: rest => .ok rest
  | [] => failedNext .endOfObject []
  | rest => failedNext .colonExpected rest

private def nothing (text : List Char) : Read (List Char) :=
  match skipGaps text with
  | 'n' :: rest => word ['u', 'l', 'l'] rest
  | rest => wrongKind "unit" rest

def named {α : Type} [Choice α] (text : List Char) : Read (α × List Char) := do
  let (name, rest) ← quoted "variant identifier" text
  accept (Value.chosen name) rest

-- A name may also stand as the only key of an object, with nothing as its value.
def choice {α : Type} [Choice α] (text : List Char) : Read (α × List Char) :=
  match skipGaps text with
  | [] => failedNext .endOfValue []
  | '"' :: rest => named ('"' :: rest)
  | '\x7b' :: rest => do
      let (value, rest) ← match skipGaps rest with
        | '"' :: rest => named ('"' :: rest)
        | [] => failedNext .endOfValue []
        | rest => failedNext .keyExpected rest
      match skipGaps (← nothing (← colon rest)) with
      | '\x7d' :: rest => return (value, rest)
      | [] => failed .endOfObject []
      | rest => failed .valueExpected rest
  | rest => failedNext .valueExpected rest

def give (config : Config) (text : List Char) : Setting → Read (Config × List Char)
  | .logFilter => do
      let (logFilter, rest) ← quoted "a string" text
      return ({ config with logFilter }, rest)
  | .logFormat => do
      let (logFormat, rest) ← choice text
      return ({ config with logFormat }, rest)
  | .domain => do
      let (domain, rest) ← choice text
      return ({ config with domain }, rest)
  | .tapeLength => do
      let (tapeLength, rest) ← length text
      return ({ config with tapeLength }, rest)

-- The text of the next key from its quote on, if there is another key.
def nextKey? (isFirst : Bool) (text : List Char) : Read (Option (List Char)) :=
  match skipGaps text with
  | [] => failedNext .endOfObject []
  | c :: rest =>
      if c = '\x7d' then .ok none
      else if isFirst then
        if c = '"' then .ok (some (c :: rest)) else failedNext .keyExpected (c :: rest)
      else if c = ',' then
        match skipGaps rest with
        | [] => failedNext .endOfValue []
        | '"' :: rest => .ok (some ('"' :: rest))
        | '\x7d' :: rest => failedNext .trailingComma ('\x7d' :: rest)
        | rest => failedNext .keyExpected rest
      else failedNext .objectCommaExpected (c :: rest)

-- A key that comes again is noticed with what follows it, up to the end of the object.
private def repeated {α : Type} (setting : Setting) (text : List Char) : Read α :=
  let rest := match skipGaps text with
    | '\x7d' :: rest => rest
    | rest => rest
  failed (.content ("duplicate field `" ++ setting.key ++ "`")) rest

-- The settings by their keys, in any order. Other keys are passed over. A unit of fuel lasts for
-- each key.
def byKey : (fuel : Nat) → (given : List Setting) → (isFirst : Bool) → Config →
    List Char → Read (Config × List Char)
  | 0, _, _, config, text => .ok (config, text)
  | fuel + 1, given, isFirst, config, text => do
      match ← nextKey? isFirst text with
      | none => return (config, (skipGaps text).drop 1)
      | some text =>
          let (key, rest) ← string (text.drop 1)
          match Choice.ofName? key with
          | none => byKey fuel given false config (← skipValue (← colon rest))
          | some setting =>
              if setting ∈ given then repeated setting rest
              let (config, rest) ← give config (← colon rest) setting
              byKey fuel (setting :: given) false config rest

def endOfList (text : List Char) : Read (List Char) :=
  match skipGaps text with
  | [] => failedNext .endOfList []
  | ']' :: rest => .ok rest
  | ',' :: rest =>
      match skipGaps rest with
      | ']' :: rest => failedNext .trailingComma (']' :: rest)
      | rest => failedNext .trailingCharacters rest
  | rest => failedNext .trailingCharacters rest

-- The settings in their order, as many as there are.
def inOrder : List Setting → (isFirst : Bool) → Config → List Char →
    Read (Config × List Char)
  | [], _, config, text => do return (config, ← endOfList text)
  | setting :: settings, isFirst, config, text =>
      match skipGaps text with
      | [] => failedNext .endOfList []
      | c :: rest =>
          if c = ']' then .ok (config, rest)
          else if isFirst then do
            let (config, rest) ← give config (c :: rest) setting
            inOrder settings false config rest
          else if c = ',' then
            match skipGaps rest with
            | [] => failedNext .endOfValue []
            | ']' :: rest => failedNext .trailingComma (']' :: rest)
            | rest => do
                let (config, rest) ← give config rest setting
                inOrder settings false config rest
          else failedNext .listCommaExpected (c :: rest)

def whole (text : List Char) : Read Config := do
  let (config, rest) ←
    match skipGaps text with
    | '[' :: rest => inOrder Choice.all true Config.standard rest
    | '\x7b' :: rest => byKey (rest.length + 1) [] true Config.standard rest
    | rest => wrongKind "struct Config" rest
  match skipGaps rest with
  | [] => return config
  | rest => failedNext .trailingCharacters rest

-- All settings of a document, or the message about its first fault.
def read (text : String) : Except String Config :=
  (whole text.toList).mapError fun fault => fault.message text

end Config.Document

end Switchboard
