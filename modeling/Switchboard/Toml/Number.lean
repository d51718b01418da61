import Switchboard.Config.Value
import Switchboard.Decimal.Real
import Switchboard.Toml.Fault

namespace Switchboard.Toml

-- A value without parts. One that is well written may still be more than can be held.
inductive Datum where
  | value (value : Value)
  | moment (text : String)
  | unfit (fault : Fault)

-- Reads numbers. All faults point into the document, and of several the first is reported.
namespace Number

abbrev Read := Except Fault

inductive Radix where
  | binary
  | octal
  | decimal
  | hexadecimal
deriving DecidableEq, Repr

namespace Radix

def base : Radix → Nat
  | .binary => 2
  | .octal => 8
  | .decimal => 10
  | .hexadecimal => 16

def problem : Radix → String
  | .binary => "invalid binary number"
  | .octal => "invalid octal number"
  | .decimal => "invalid integer number"
  | .hexadecimal => "invalid hexadecimal number"

end Radix

def Radix.isDigit (radix : Radix) (c : Char) : Bool :=
  (Numeral.hexDigit? c).any fun digit => digit < radix.base

def Radix.natural? (radix : Radix) (digits : List Char) : Option Nat :=
  if digits.isEmpty || !digits.all radix.isDigit then none
  else some (digits.foldl (fun value c => value * radix.base + (Numeral.hexDigit? c).getD 0) 0)

private def withoutGaps (text : List Char) : List Char := text.filter (· != '_')

private def badGap (place : Nat) : Fault :=
  ⟨"`_` may only go between digits", some [], ⟨place, place + 1⟩⟩

private def cutAtGaps : List Char → List (List Char)
  | [] => [[]]
  | c :: rest =>
      if c = '_' then [] :: cutAtGaps rest
      else match cutAtGaps rest with
        | [] => [[c]]
        | part :: more => (c :: part) :: more

-- The first part between underscores that has no digit next to one of them.
private def badPart? (isDigit : Char → Bool) (start stop : Nat) :
    (place : Nat) → List (List Char) → Option Nat
  | _, [] => none
  | place, part :: rest =>
      let behind := place + part.length
      if start < place ∧ part.head?.any (!isDigit ·) then some (place - 1)
      else if 1 < part.length ∧ behind < stop ∧ part.getLast?.any (!isDigit ·) then some behind
      else if part.isEmpty ∧ place ≠ start ∧ behind ≠ stop then some place
      else badPart? isDigit start stop (behind + 1) rest

-- Between two digits there may be an underscore, and nowhere else. The text is what is left of a
-- number behind its mark of the radix.
private def checkGaps (isDigit : Char → Bool) (text : List Char) (span : Span) : Read Unit :=
  if !text.contains '_' then .ok ()
  else if text.head? = some '_' then .error (badGap span.start)
  else if text.getLast? = some '_' then .error (badGap (span.stop - 1))
  else match badPart? isDigit span.start span.stop (span.stop - text.length) (cutAtGaps text) with
    | some place => .error (badGap place)
    | none => .ok ()

-- Only numbers of 64 bits with a sign can be held.
private def held (number : Int) (span : Span) : Datum :=
  let beyond (kind : String) : Datum :=
    .unfit ⟨"invalid type: integer `" ++ toString number ++ "` as " ++ kind ++
      ", expected any valid TOML value", none, span⟩
  if (Numeral.Range.signed 64).contains number then .value (.integer number)
  else if (Numeral.Range.unsigned 64).contains number then
    .unfit ⟨"u64 value was too large", none, span⟩
  else if (Numeral.Range.signed 128).contains number then beyond "i128"
  else if (Numeral.Range.unsigned 128).contains number then beyond "u128"
  else .unfit ⟨"integer number overflowed", none, span⟩

-- A number without digits is more than can be held, too.
private def heldNatural (radix : Radix) (negative : Bool) (digits : List Char) (span : Span) :
    Datum :=
  match radix.natural? (withoutGaps digits) with
  | some value => held (if negative then -value else value) span
  | none => .unfit ⟨"integer number overflowed", none, span⟩

private def leadingZero (place : Nat) : Fault :=
  ⟨"unexpected leading zero", some [], ⟨place, place + 1⟩⟩

-- A decimal number behind its sign.
def integer (negative : Bool) (start : Nat) (raw text : List Char) (span : Span) : Read Datum := do
  if 1 < text.length ∧ text.head? = some '0' then throw (leadingZero start)
  checkGaps Radix.hexadecimal.isDigit raw span
  return heldNatural .decimal negative text span

private def isDigitOrGap (c : Char) : Bool := c.isDigit || c == '_'

-- Digits of a real number, and what follows them.
private def digits (problem : String) (zerosFirst : Bool) (start : Nat) (text : List Char) :
    Read (Nat × List Char) :=
  let front := text.takeWhile isDigitOrGap
  let count := (withoutGaps front).length
  if count = 0 then .error ⟨problem, some ["digits"], ⟨start, start⟩⟩
  else if 1 < count ∧ text.head? = some '0' ∧ zerosFirst = false then .error (leadingZero start)
  else .ok (start + front.length, text.dropWhile isDigitOrGap)

private def fraction (start : Nat) : List Char → Read (Nat × List Char)
  | '.' :: rest => digits "invalid fraction" true (start + 1) rest
  | rest => .ok (start, rest)

private def exponent (start : Nat) (text : List Char) : Read (Nat × List Char) :=
  match text with
  | c :: rest =>
      if c = 'e' ∨ c = 'E' then
        match rest with
        | d :: more =>
            if d = '+' ∨ d = '-' then digits "invalid exponent" true (start + 2) more
            else digits "invalid exponent" true (start + 1) rest
        | [] => digits "invalid exponent" true (start + 1) []
      else .ok (start, text)
  | [] => .ok (start, [])

-- A real number behind its sign.
def real (start : Nat) (raw text : List Char) (span : Span) : Read Datum := do
  let (place, rest) ← digits "invalid mantissa" false start text
  let (place, rest) ← fraction place rest
  let (place, rest) ← exponent place rest
  if !rest.isEmpty then
    throw ⟨"invalid floating-point number", some [], ⟨place, span.stop⟩⟩
  checkGaps Char.isDigit raw span
  match Decimal.Real.read? (withoutGaps raw) with
  | some value =>
      return if value.isFinite then .value (.real value)
        else .unfit ⟨"floating-point number overflowed", none, span⟩
  | none => return .unfit ⟨"floating-point number overflowed", none, span⟩

-- Digits of a radix other than ten. The mark in front of them is written in lower case, and there
-- is no sign.
def radixed (radix : Radix) (letter : Char) (signed : Bool) (start : Nat) (text : List Char)
    (span : Span) : Read Datum := do
  if signed then
    throw ⟨"integers with a radix cannot be signed", some [], ⟨span.start, span.start + 1⟩⟩
  if letter.isUpper then
    throw (.missing "radix must be lowercase" (String.ofList ['0', letter.toLower])
      ⟨start - 2, start⟩)
  match text.findIdx? fun c => !(radix.isDigit c || c == '_') with
  | some index => throw ⟨radix.problem, none, ⟨start + index, start + index + 1⟩⟩
  | none =>
      checkGaps Radix.hexadecimal.isDigit text span
      return heldNatural radix false text span

end Number

end Switchboard.Toml
