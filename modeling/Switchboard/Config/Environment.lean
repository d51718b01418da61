import Switchboard.Config.Value
import Switchboard.Decimal.Real
import Switchboard.Text.Blank

namespace Switchboard

-- Variables and their values, in the order in which the system lists them.
abbrev Environment := List (String × String)

-- The value that the text of a variable stands for. Text that is no value of another kind stands
-- for itself.
namespace VariableText

def isGap (c : Char) : Bool :=
  c == ' ' || c == '\t' || c == '\n' || c == '\x0c' || c == '\r'

def isOrdinary (c : Char) : Bool :=
  !(c == ',' || c == '\x7b' || c == '\x7d' || c == '[' || c == ']')

private def isKeyChar (c : Char) : Bool := c.isAlphanum || c == '_' || c == '-'

def skipGaps (text : List Char) : List Char := text.dropWhile isGap

private def codePoint? : (count value : Nat) → List Char → Option (Char × List Char)
  | 0, value, rest => if h : value.isValidChar then some (Char.ofNatAux value h, rest) else none
  | count + 1, value, c :: rest => do codePoint? count (value * 16 + (← Numeral.hexDigit? c)) rest
  | _ + 1, _, [] => none

private def shortEscape? (c : Char) : Option Char :=
  match c with
  | '"' => some '"'
  | '\\' => some '\\'
  | 'b' => some '\x08'
  | 'f' => some '\x0c'
  | 'n' => some '\n'
  | 'r' => some '\r'
  | 't' => some '\t'
  | _ => none

private def isShowable (c : Char) : Bool := c == '\t' || (c.toNat ≥ 0x20 && c.toNat ≠ 0x7F)

-- The text up to the closing quote, once there has been an escape.
private def escaped? : (fuel : Nat) → List Char → Option (List Char × List Char)
  | 0, _ => none
  | _ + 1, [] => none
  | _ + 1, '"' :: rest => some ([], rest)
  | fuel + 1, '\\' :: c :: rest => do
      let (c, rest) ←
        if c = 'u' then codePoint? 4 0 rest
        else if c = 'U' then codePoint? 8 0 rest
        else (shortEscape? c).map fun c => (c, rest)
      let (text, rest) ← escaped? fuel rest
      return (c :: text, rest)
  | fuel + 1, c :: rest => do
      if !isShowable c then none
      let (text, rest) ← escaped? fuel rest
      return (c :: text, rest)

-- The characters that fit into so many bytes.
private def withinBytes : Nat → List Char → List Char
  | _, [] => []
  | room, c :: rest =>
      if c.utf8Size ≤ room then c :: withinBytes (room - c.utf8Size) rest else []

private def isPlain (c : Char) : Bool := c != '"' && c != '\\'

-- The text up to the closing quote. In front of the first escape it keeps as many bytes as there
-- are characters.
private def quoted? (text : List Char) : Option (List Char × List Char) := do
  let front := text.takeWhile isPlain
  if !front.all isShowable then none
  match text.dropWhile isPlain with
  | '"' :: rest => return (front, rest)
  | rest =>
      let (back, rest) ← escaped? (rest.length + 1) rest
      return (withinBytes front.length front ++ back, rest)

private def key? (text : List Char) : Option (String × List Char) :=
  match text with
  | '"' :: rest => (quoted? rest).map fun (key, rest) => (String.ofList key, rest)
  | _ =>
      let key := text.takeWhile isKeyChar
      if key.isEmpty then none else some (String.ofList key, text.dropWhile isKeyChar)

-- A whole number that fits into a word of either kind.
def integer? (text : List Char) : Option Int :=
  match Numeral.read (.unsigned 64) text, Numeral.read (.signed 64) text with
  | .ok value, _ => some value
  | .error _, .ok value => some value
  | .error _, .error _ => none

def scalar (text : String) : Value :=
  let real := if text.toList.contains '.' then Decimal.Real.read? text.toList else none
  match real, integer? text.toList with
  | some value, _ => .real value
  | none, some value => .integer value
  | none, none => .text text

-- What follows a word in front, which may be written in either case.
def literal? (word : List Char) (text : List Char) : Option (List Char) :=
  if (text.take word.length).map Char.toLower = word then some (text.drop word.length) else none

mutual

def value? : (fuel : Nat) → List Char → Option (Value × List Char)
  | 0, _ => none
  | fuel + 1, text => do
      let text := skipGaps text
      let (value, rest) ←
        match literal? ['t', 'r', 'u', 'e'] text, literal? ['f', 'a', 'l', 's', 'e'] text with
        | some rest, _ => some (.flag true, rest)
        | none, some rest => some (.flag false, rest)
        | none, none =>
            match text with
            | '\x7b' :: rest => (entries? fuel rest).map fun (all, rest) => (.table all, rest)
            | '[' :: rest => (items? fuel rest).map fun (all, rest) => (.array all, rest)
            | '"' :: rest =>
                (quoted? rest).map fun (all, rest) => (.text (String.ofList all), rest)
            | '\x27' :: c :: '\x27' :: rest => some (.text (String.singleton c), rest)
            | '\x27' :: _ => none
            | _ =>
                let word := String.ofList (text.takeWhile isOrdinary)
                some (scalar (Text.trim word), text.dropWhile isOrdinary)
      return (value, skipGaps rest)

def items? : (fuel : Nat) → List Char → Option (List Value × List Char)
  | 0, _ => none
  | _ + 1, ']' :: rest => some ([], rest)
  | fuel + 1, text => do
      let (item, rest) ← value? fuel text
      match rest with
      | ',' :: rest =>
          let (items, rest) ← items? fuel rest
          return (item :: items, rest)
      | ']' :: rest => return ([item], rest)
      | _ => none

def entries? : (fuel : Nat) → List Char → Option (List (String × Value) × List Char)
  | 0, _ => none
  | _ + 1, '\x7d' :: rest => some ([], rest)
  | fuel + 1, text => do
      let (key, rest) ← key? (skipGaps text)
      let (value, rest) ← match skipGaps rest with
        | '=' :: rest => value? fuel rest
        | _ => none
      match rest with
      | ',' :: rest =>
          let (entries, rest) ← entries? fuel rest
          return (if entries.any (·.1 == key) then entries else (key, value) :: entries, rest)
      | '\x7d' :: rest => return ([(key, value)], rest)
      | _ => none

end

def whole (text : String) : Value :=
  match value? (text.length + 1) text.toList with
  | some (value, []) => value
  | _ => .text text

def isBracketed (text : List Char) : Bool :=
  match text with
  | c :: _ => c == '[' || c == '\x7b' || c == '"' || c == '\x27'
  | [] => false

-- Commas make a list of texts, unless the text has brackets or quotes of its own.
def value (text : String) : Value :=
  let text := Text.trim text
  if text.toList.contains ',' && !isBracketed text.toList then
    .array ((text.toList.splitOn ',').map fun item => .text (Text.trim (String.ofList item)))
  else whole text

end VariableText

namespace Environment

def settingsMark : String := "TEXTDISPATCH_"

-- What follows the mark at the front of the name of a setting, in lower case.
def settingName? (name : String) : Option String :=
  let name := (Text.trim name).toList
  let mark := settingsMark.toList.map Char.toLower
  if mark == (name.take mark.length).map Char.toLower then
    some (String.ofList ((name.drop mark.length).map Char.toLower))
  else none

-- What stands between two underscores and the next two.
def parts : List Char → List (List Char)
  | [] => [[]]
  | '_' :: '_' :: rest => [] :: parts rest
  | c :: rest =>
      match parts rest with
      | [] => [[c]]
      | part :: more => (c :: part) :: more

-- Two underscores lead into a table, and so does a point.
def keyPath (name : String) : List String :=
  (parts name.toList).flatMap fun part => (part.splitOn '.').map String.ofList

def nested : List String → Value → Value
  | [], value => value
  | key :: rest, value => .table [(key, nested rest value)]

-- A name with an empty part is not that of a setting.
def entry? (name text : String) : Option (String × Value) := do
  let path := keyPath (← settingName? name)
  if path.contains "" then none
  match path with
  | [] => none
  | key :: rest => return (key, nested rest (VariableText.value text))

-- Of two variables for one setting the later one counts, as a whole.
def layer (environment : Environment) : Layer :=
  let entries := environment.filterMap fun (name, text) => entry? name text
  Layer.finite (entries.foldl (fun layer (key, value) => Layer.put key value layer) [])

-- The value of one variable, whose name must be exact.
def find? (environment : Environment) (name : String) : Option String :=
  (List.find? (fun entry => entry.1 == name) environment).map (·.2)

end Environment

end Switchboard
