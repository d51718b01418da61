import Switchboard.Toml.Number

namespace Switchboard.Toml

-- Reads texts between quotes. All faults point into the document, and of several the first is
-- reported.
namespace Quoted

abbrev Read := Except Fault

def marks : Quoting → List Char
  | .literal => ['\x27']
  | .literalLines => ['\x27', '\x27', '\x27']
  | .basic => ['"']
  | .basicLines => ['"', '"', '"']

private def problem : Quoting → String
  | .literal => "invalid literal string"
  | .literalLines => "invalid multi-line literal string"
  | .basic => "invalid basic string"
  | .basicLines => "invalid multi-line basic string"

def isVisible (c : Char) : Bool :=
  c == '\t' || (0x20 ≤ c.toNat && c.toNat ≠ 0x7F)

private def withoutFirstBreak (text : List Char) : List Char :=
  match text with
  | '\n' :: rest => rest
  | '\r' :: '\n' :: rest => rest
  | _ => text

private def shortEscape? (c : Char) : Option Char :=
  match c with
  | 'b' => some '\x08'
  | 'e' => some '\x1b'
  | 'f' => some '\x0c'
  | 'n' => some '\n'
  | 'r' => some '\r'
  | 't' => some '\t'
  | '\\' => some '\\'
  | '"' => some '"'
  | _ => none

private def escapeNames : List String :=
  ["b", "e", "f", "n", "r", "\\", "\"", "x", "u", "U"].map Fault.literal

private def codeFault (problem : String) (place : Nat) : Fault :=
  ⟨problem, some ["unicode hexadecimal value"], ⟨place, place⟩⟩

-- A code point in so many digits.
def coded (count place : Nat) (text : List Char) : Read (Char × List Char) :=
  let digits := (text.take count).takeWhile Number.Radix.hexadecimal.isDigit
  match Number.Radix.hexadecimal.natural? digits with
  | none => .error (codeFault "too few unicode value digits" (place + digits.length))
  | some code =>
      if digits.length < count then
        .error (codeFault "too few unicode value digits" (place + digits.length))
      else if code.isValidChar then .ok (Char.ofNat code, text.drop count)
      else .error (codeFault "invalid value" place)

private def isGap (c : Char) : Bool := c == ' ' || c == '\t' || c == '\n' || c == '\r'

-- A backslash at the end of a line joins it to the next word.
private def joined? (text : List Char) : Option (List Char) :=
  match text.dropWhile fun c => c == ' ' || c == '\t' with
  | '\n' :: rest => some (rest.dropWhile isGap)
  | '\r' :: '\n' :: rest => some (rest.dropWhile isGap)
  | _ => none

def escaped (lines : Bool) (place : Nat) (text : List Char) :
    Read (List Char × List Char) :=
  let unknown := Fault.mk "missing escaped value" (some escapeNames) ⟨place, place⟩
  let ofCode (count : Nat) (rest : List Char) : Read (List Char × List Char) := do
    let (c, rest) ← coded count (place + 1) rest
    return ([c], rest)
  match text with
  | [] => .error unknown
  | c :: rest =>
      match shortEscape? c, if lines then joined? text else none with
      | some c, _ => .ok ([c], rest)
      | none, some rest => .ok ([], rest)
      | none, none =>
          if c = 'x' then ofCode 2 rest
          else if c = 'u' then ofCode 4 rest
          else if c = 'U' then ofCode 8 rest
          else .error unknown

-- A line break is one character, however it is written.
def break? (lines : Bool) (text : List Char) : Option (List Char) :=
  match lines, text with
  | true, '\n' :: rest => some rest
  | true, '\r' :: '\n' :: rest => some rest
  | _, _ => none

-- The text inside, which ends at a known place.
def body (quoting : Quoting) (lines escapes : Bool) (expected : List String) (stop : Nat) :
    (fuel : Nat) → List Char → Read (List Char)
  | 0, _ => .ok []
  | _ + 1, [] => .ok []
  | fuel + 1, c :: rest => do
      let read := body quoting lines escapes expected stop fuel
      let place := stop - rest.length
      if c = '\\' ∧ escapes = true then
        let (front, rest) ← escaped lines place rest
        return front ++ (← read rest)
      else match break? lines (c :: rest) with
        | some rest => return '\n' :: (← read rest)
        | none =>
            if isVisible c then return c :: (← read rest)
            else throw ⟨problem quoting, some expected, ⟨place - 1, place⟩⟩

def lines : Quoting → Bool
  | .literal => false
  | .literalLines => true
  | .basic => false
  | .basicLines => true

def escapes : Quoting → Bool
  | .literal => false
  | .literalLines => false
  | .basic => true
  | .basicLines => true

def expectedInside (escapes : Bool) : List String :=
  if escapes then ["non-double-quote visible characters", Fault.literal "\\"]
  else ["non-single-quote visible characters"]

-- The text between the marks.
def read (quoting : Quoting) (text : List Char) (span : Span) : Read String := do
  let mark := marks quoting
  let inner := text.drop mark.length
  if inner.length < mark.length ∨ mark.isSuffixOf inner = false then
    throw (.missing (problem quoting) (String.ofList mark) span.after)
  let inner := inner.take (inner.length - mark.length)
  let inner := if lines quoting then withoutFirstBreak inner else inner
  let escapes := escapes quoting
  let result ← body quoting (lines quoting) escapes (expectedInside escapes)
    (span.stop - mark.length) (inner.length + 1) inner
  return String.ofList result

end Quoted

end Switchboard.Toml
