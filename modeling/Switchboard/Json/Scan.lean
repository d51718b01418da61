import Switchboard.Decimal.Real
import Switchboard.Numeral
import Switchboard.Text.Layout

namespace Switchboard.Json

-- Reading the text of a document from its front, one part after another.
namespace Scan

-- What is wrong with a text.
inductive Problem where
  | endOfValue
  | endOfList
  | endOfObject
  | endOfString
  | valueExpected
  | wordExpected
  | colonExpected
  | listCommaExpected
  | objectCommaExpected
  | keyExpected
  | badNumber
  | numberTooLarge
  | badEscape
  | loneSurrogate
  | unfinishedSurrogates
  | controlCharacter
  | trailingComma
  | trailingCharacters
  | content (text : String)
deriving DecidableEq, Repr

namespace Problem

def message : Problem → String
  | .endOfValue => "EOF while parsing a value"
  | .endOfList => "EOF while parsing a list"
  | .endOfObject => "EOF while parsing an object"
  | .endOfString => "EOF while parsing a string"
  | .valueExpected => "expected value"
  | .wordExpected => "expected ident"
  | .colonExpected => "expected `:`"
  | .listCommaExpected => "expected `,` or `]`"
  | .objectCommaExpected => "expected `,` or `\x7d`"
  | .keyExpected => "key must be a string"
  | .badNumber => "invalid number"
  | .numberTooLarge => "number out of range"
  | .badEscape => "invalid escape"
  | .loneSurrogate => "lone leading surrogate in hex escape"
  | .unfinishedSurrogates => "unexpected end of hex escape"
  | .controlCharacter => "control character (\\u0000-\\u001F) found while parsing a string"
  | .trailingComma => "trailing comma"
  | .trailingCharacters => "trailing characters"
  | .content message => message

end Problem

-- A problem, and how many bytes of the text are not read when it is noticed.
structure Fault where
  problem : Problem
  unread : Nat
deriving DecidableEq, Repr

abbrev Read := Except Fault

open Numeral (hexDigit?)
open Text (byteCount)

-- A problem with what is already read, and one with the next byte, which counts as read.
def failed {α : Type} (problem : Problem) (rest : List Char) : Read α :=
  .error ⟨problem, byteCount rest⟩

def failedNext {α : Type} (problem : Problem) (rest : List Char) : Read α :=
  .error ⟨problem, byteCount rest - 1⟩

namespace Fault

-- Lines count from one, and so do the columns of what has been read of the last one, in bytes.
def position (fault : Fault) (text : String) : Nat × Nat :=
  let bytes := text.toUTF8.data.toList
  let before := bytes.take (bytes.length - fault.unread)
  let last := before.reverse.takeWhile (· != 10)
  (1 + before.countP (· == 10), last.length)

def message (fault : Fault) (text : String) : String :=
  let (line, column) := fault.position text
  fault.problem.message ++ " at line " ++ toString line ++ " column " ++ toString column

end Fault

def isGap (c : Char) : Bool := c == ' ' || c == '\n' || c == '\t' || c == '\r'

def skipGaps (text : List Char) : List Char := text.dropWhile isGap

-- The letters of a word, whose first one has been read.
def word : (expected : List Char) → List Char → Read (List Char)
  | [], rest => .ok rest
  | _ :: _, [] => failed .endOfValue []
  | e :: expected, c :: rest => if c = e then word expected rest else failed .wordExpected rest

-- Strings

-- Four digits, which are looked at together.
def hexUnit (text : List Char) : Read (Nat × List Char) :=
  match text with
  | a :: b :: c :: d :: rest =>
      match hexDigit? a, hexDigit? b, hexDigit? c, hexDigit? d with
      | some a, some b, some c, some d => .ok (((a * 16 + b) * 16 + c) * 16 + d, rest)
      | _, _, _, _ => .error ⟨.badEscape, byteCount text - 4⟩
  | _ =>
      if byteCount text < 4 then .error ⟨.endOfString, 0⟩
      else .error ⟨.badEscape, byteCount text - 4⟩

def isLeading (unit : Nat) : Bool := 0xD800 ≤ unit && unit ≤ 0xDBFF

def isTrailing (unit : Nat) : Bool := 0xDC00 ≤ unit && unit ≤ 0xDFFF

-- The second half of a character that takes two escapes.
def trailingUnit (text : List Char) : Read (Nat × List Char) :=
  match text with
  | [] => failed .endOfString []
  | '\\' :: [] => failed .endOfString []
  | '\\' :: 'u' :: rest => do
      let (unit, rest) ← hexUnit rest
      if isTrailing unit then return (unit, rest) else failed .loneSurrogate rest
  | '\\' :: rest => failedNext .unfinishedSurrogates rest
  | rest => failedNext .unfinishedSurrogates rest

def codeEscape (text : List Char) : Read (Char × List Char) := do
  let (unit, rest) ← hexUnit text
  if isTrailing unit then failed .loneSurrogate rest
  else if isLeading unit then
    let (second, rest) ← trailingUnit rest
    return (Char.ofNat ((unit - 0xD800) * 1024 + (second - 0xDC00) + 0x10000), rest)
  else return (Char.ofNat unit, rest)

def shortEscape? (c : Char) : Option Char :=
  match c with
  | '"' => some '"'
  | '\\' => some '\\'
  | '/' => some '/'
  | 'b' => some '\x08'
  | 'f' => some '\x0c'
  | 'n' => some '\n'
  | 'r' => some '\r'
  | 't' => some '\t'
  | _ => none

def escape (text : List Char) : Read (Char × List Char) :=
  match text with
  | [] => failed .endOfString []
  | c :: rest =>
      if c = 'u' then codeEscape rest
      else match shortEscape? c with
        | some c => .ok (c, rest)
        | none => failed .badEscape rest

-- The characters up to the closing quote, which is read too. A unit of fuel lasts for each.
def stringBody : (fuel : Nat) → List Char → Read (List Char × List Char)
  | 0, rest => failed .endOfString rest
  | _ + 1, [] => failed .endOfString []
  | fuel + 1, c :: rest =>
      if c = '"' then .ok ([], rest)
      else if c = '\\' then do
        let (c, rest) ← escape rest
        let (more, rest) ← stringBody fuel rest
        return (c :: more, rest)
      else if c.toNat < 0x20 then failed .controlCharacter rest
      else do
        let (more, rest) ← stringBody fuel rest
        return (c :: more, rest)

def string (text : List Char) : Read (String × List Char) := do
  let (chars, rest) ← stringBody (text.length + 1) text
  return (String.ofList chars, rest)

def skipEscape (text : List Char) : Read (List Char) :=
  match text with
  | [] => failed .endOfString []
  | c :: rest =>
      if c = 'u' then do return (← hexUnit rest).2
      else if (shortEscape? c).isSome then .ok rest
      else failed .badEscape rest

-- A string that nobody wants may hold lone halves of characters.
def skipString : (fuel : Nat) → List Char → Read (List Char)
  | 0, rest => failed .endOfString rest
  | _ + 1, [] => failed .endOfString []
  | fuel + 1, c :: rest =>
      if c = '"' then .ok rest
      else if c = '\\' then do skipString fuel (← skipEscape rest)
      else if c.toNat < 0x20 then failed .controlCharacter (c :: rest)
      else skipString fuel rest

-- Numbers

-- A number without point and exponent keeps its value as long as it fits into 64 bits.
inductive Number where
  | integer (value : Int)
  | real (value : Float)

def digitValue (c : Char) : Nat := c.toNat - 48

def fits (significand : Nat) : Bool := (Numeral.Range.unsigned 64).contains significand

private def powerOfTen (exponent : Nat) : Float := Decimal.Real.nearest false 1 exponent

-- The value of a significand of 64 bits with an exponent. It is scaled in steps whose results are
-- rounded, so it may differ from the nearest number in the last place.
private def scaled (fuel : Nat) (value : Float) (exponent : Int) (rest : List Char) :
    Read Float :=
  match fuel with
  | 0 => .ok value
  | fuel + 1 =>
      if exponent.natAbs ≤ 308 then
        if 0 ≤ exponent then
          let product := value * powerOfTen exponent.natAbs
          if product.isInf then failed .numberTooLarge rest else .ok product
        else .ok (value / powerOfTen exponent.natAbs)
      else if value == 0.0 then .ok value
      else if 0 ≤ exponent then failed .numberTooLarge rest
      else scaled fuel (value / powerOfTen 308) (exponent + 308) rest

private def ofParts (negative : Bool) (significand : Nat) (exponent : Int) (rest : List Char) :
    Read (Number × List Char) := do
  let value ← scaled 20 (UInt64.ofNat significand).toFloat exponent rest
  return (.real (if negative then -value else value), rest)

def skipDigits (text : List Char) : List Char := text.dropWhile Char.isDigit

private def exponentRange : Numeral.Range := .signed 32

private def exponentDigits : Nat → List Char → Option Nat × List Char
  | value, c :: rest =>
      if c.isDigit then
        let next := value * 10 + digitValue c
        if exponentRange.high < next then (none, rest) else exponentDigits next rest
      else (some value, c :: rest)
  | value, [] => (some value, [])

-- Beyond the exponent letter. Exponents count up to a limit, however they start.
private def exponent (negative : Bool) (significand : Nat) (start : Int) (text : List Char) :
    Read (Number × List Char) :=
  let (down, text) := match text with
    | '+' :: rest => (false, rest)
    | '-' :: rest => (true, rest)
    | rest => (false, rest)
  match text with
  | [] => failed .endOfValue []
  | c :: rest =>
      if !c.isDigit then failed .badNumber rest
      else
        match exponentDigits (digitValue c) rest with
        | (some value, rest) =>
            let total := if down then start - value else start + value
            ofParts negative significand (max exponentRange.low (min total exponentRange.high)) rest
        | (none, rest) =>
            if significand ≠ 0 ∧ down = false then failed .numberTooLarge rest
            else .ok (.real (if negative then -0.0 else 0.0), skipDigits rest)

private def afterDigits (negative : Bool) (significand : Nat) (start : Int) (text : List Char) :
    Read (Number × List Char) :=
  match text with
  | c :: rest =>
      if c = 'e' ∨ c = 'E' then exponent negative significand start rest
      else ofParts negative significand start text
  | [] => ofParts negative significand start []

-- Digits behind the point, as long as the significand has room for them.
private def fractionDigits : (significand : Nat) → (count : Nat) → List Char →
    Nat × Nat × Bool × List Char
  | significand, count, c :: rest =>
      if c.isDigit then
        let next := significand * 10 + digitValue c
        if fits next then fractionDigits next (count + 1) rest
        else (significand, count, true, c :: rest)
      else (significand, count, false, c :: rest)
  | significand, count, [] => (significand, count, false, [])

private def fraction (negative : Bool) (significand : Nat) (start : Int) (text : List Char) :
    Read (Number × List Char) :=
  let (significand, count, full, rest) := fractionDigits significand 0 text
  if full then afterDigits negative significand (start - count) (skipDigits rest)
  else if count = 0 then
    if rest.isEmpty then failedNext .endOfValue rest else failedNext .badNumber rest
  else afterDigits negative significand (start - count) rest

def wholeDigits : (significand : Nat) → List Char → Nat × Bool × List Char
  | significand, c :: rest =>
      if c.isDigit then
        let next := significand * 10 + digitValue c
        if fits next then wholeDigits next rest
        else (significand, true, c :: rest)
      else (significand, false, c :: rest)
  | significand, [] => (significand, false, [])

-- A number below the range of 64 bits becomes a real, and so does a negative zero.
def plain (negative : Bool) (significand : Nat) : Number :=
  if !negative then .integer significand
  else if 0 < significand ∧ (Numeral.Range.signed 64).contains (-significand) then
    .integer (-significand)
  else .real (-(UInt64.ofNat significand).toFloat)

def numberTail (negative : Bool) (significand : Nat) (text : List Char) :
    Read (Number × List Char) :=
  match text with
  | c :: rest =>
      if c = '.' then fraction negative significand 0 rest
      else if c = 'e' ∨ c = 'E' then exponent negative significand 0 rest
      else .ok (plain negative significand, text)
  | [] => .ok (plain negative significand, [])

private def longTail (negative : Bool) (significand : Nat) (text : List Char) :
    Read (Number × List Char) :=
  let rest := skipDigits text
  let extra : Int := (text.length : Int) - rest.length
  match rest with
  | '.' :: rest => fraction negative significand extra rest
  | rest => afterDigits negative significand extra rest

-- Behind the sign, if there is one.
def number (negative : Bool) (text : List Char) : Read (Number × List Char) :=
  match text with
  | [] => failed .endOfValue []
  | c :: rest =>
      if c = '0' then
        if rest.head?.any Char.isDigit then failedNext .badNumber rest
        else numberTail negative 0 rest
      else if c.isDigit then
        let (significand, full, rest) := wholeDigits (digitValue c) rest
        if full then longTail negative significand rest else numberTail negative significand rest
      else failed .badNumber rest

def skipExponent (text : List Char) : Read (List Char) :=
  let text := match text with
    | '+' :: rest => rest
    | '-' :: rest => rest
    | rest => rest
  match text with
  | [] => failed .badNumber []
  | c :: rest => if c.isDigit then .ok (skipDigits rest) else failed .badNumber rest

def skipFraction (text : List Char) : Read (List Char) :=
  if text.head?.any Char.isDigit then
    match skipDigits text with
    | c :: rest => if c = 'e' ∨ c = 'E' then skipExponent rest else .ok (c :: rest)
    | [] => .ok []
  else failedNext .badNumber text

def skipNumberTail (text : List Char) : Read (List Char) :=
  match text with
  | c :: rest =>
      if c = '.' then skipFraction rest
      else if c = 'e' ∨ c = 'E' then skipExponent rest
      else .ok text
  | [] => .ok []

def skipNumber (text : List Char) : Read (List Char) :=
  match text with
  | [] => failed .badNumber []
  | c :: rest =>
      if c = '0' then
        if rest.head?.any Char.isDigit then failedNext .badNumber rest else skipNumberTail rest
      else if c.isDigit then skipNumberTail (skipDigits rest)
      else failed .badNumber rest

-- Whole values

-- Where a value stands: in lists or in objects, the innermost first.
inductive Frame where
  | list
  | object
deriving DecidableEq, Repr

private def endProblem : Frame → Problem
  | .list => .endOfList
  | .object => .endOfObject

private def commaProblem : Frame → Problem
  | .list => .listCommaExpected
  | .object => .objectCommaExpected

private def closes (frame : Frame) (c : Char) : Bool :=
  match frame with
  | .list => c == ']'
  | .object => c == '\x7d'

-- A value that is made of one part, or the frame that it opens.
def skipPart (text : List Char) : Read (Option Frame × List Char) :=
  match text with
  | [] => failedNext .endOfValue []
  | c :: rest =>
      if c = '[' then .ok (some .list, rest)
      else if c = '\x7b' then .ok (some .object, rest)
      else do
        let rest ←
          if c = 'n' then word ['u', 'l', 'l'] rest
          else if c = 't' then word ['r', 'u', 'e'] rest
          else if c = 'f' then word ['a', 'l', 's', 'e'] rest
          else if c = '-' then skipNumber rest
          else if c.isDigit then skipNumber text
          else if c = '"' then skipString (rest.length + 1) rest
          else failedNext .valueExpected text
        return (none, rest)

-- Leaves all frames that end here. The answer is the frame in which another value follows.
def leave : (fuel : Nat) → (comma : Bool) → List Frame → List Char →
    Read (List Frame × List Char)
  | 0, _, frames, source => .ok (frames, source)
  | _ + 1, _, [], source => .ok ([], source)
  | fuel + 1, comma, frame :: frames, source =>
      match skipGaps source with
      | [] => failedNext (endProblem frame) []
      | c :: rest =>
          if comma ∧ c = ',' then .ok (frame :: frames, rest)
          else if closes frame c then leave fuel true frames rest
          else if comma then failedNext (commaProblem frame) (c :: rest)
          else .ok (frame :: frames, c :: rest)

private def skipKey (text : List Char) : Read (List Char) :=
  match skipGaps text with
  | [] => failedNext .endOfObject []
  | '"' :: rest => do
      let rest ← skipString (rest.length + 1) rest
      match skipGaps rest with
      | ':' :: rest => return rest
      | [] => failedNext .endOfObject []
      | rest => failedNext .colonExpected rest
  | rest => failedNext .keyExpected rest

def skipFrames : (fuel : Nat) → List Frame → List Char → Read (List Char)
  | 0, _, source => .ok source
  | fuel + 1, frames, source => do
      let (opened, rest) ← skipPart (skipGaps source)
      let (comma, frames) := match opened with
        | some frame => (false, frame :: frames)
        | none => (true, frames)
      let (frames, rest) ← leave (rest.length + 1) comma frames rest
      match frames with
      | [] => return rest
      | .list :: _ => skipFrames fuel frames rest
      | .object :: _ => skipFrames fuel frames (← skipKey rest)

-- A value of any kind that nobody wants.
def skipValue (text : List Char) : Read (List Char) :=
  skipFrames (text.length + 1) [] text

end Scan

end Switchboard.Json
