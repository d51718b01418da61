namespace Switchboard.Decimal

-- Reading the decimal text of a binary floating point number.
namespace Real

private def digitOf? (c : Char) : Option Nat := if c.isDigit then some (c.toNat - 48) else none

-- The digits at the front as a number, and how many they are.
def digits : (value count : Nat) → List Char → Nat × Nat × List Char
  | value, count, [] => (value, count, [])
  | value, count, c :: rest =>
      match digitOf? c with
      | some d => digits (value * 10 + d) (count + 1) rest
      | none => (value, count, c :: rest)

def signed : List Char → Bool × List Char
  | '-' :: rest => (true, rest)
  | '+' :: rest => (false, rest)
  | rest => (false, rest)

-- The whole rest must be an exponent, if there is any.
def exponent? : List Char → Option Int
  | [] => some 0
  | c :: rest =>
      if c = 'e' ∨ c = 'E' then
        let (negative, rest) := signed rest
        match digits 0 0 rest with
        | (_, 0, _) => none
        | (value, _, []) => some (if negative then -value else value)
        | _ => none
      else none

-- The bit with which the significand of a number that is not tiny starts.
def leadingBit : Nat := Nat.pow 2 52

-- The quotient of two positive whole numbers in units of a power of two, rounded to the nearest
-- whole number, of two equally near ones to the even one.
def rounded (numerator denominator : Nat) (power : Int) : Nat :=
  let numerator := if power < 0 then numerator * Nat.pow 2 (-power).toNat else numerator
  let denominator := if power < 0 then denominator else denominator * Nat.pow 2 power.toNat
  let quotient := numerator / denominator
  let rest := numerator % denominator
  if 2 * rest < denominator ∨ (2 * rest = denominator ∧ quotient % 2 = 0) then quotient
  else quotient + 1

-- The power of two whose multiples are the floating point numbers near a quotient. Below it there
-- are no finer ones.
def unit (numerator denominator : Nat) : Int :=
  let guess : Int := (Nat.log2 numerator : Int) - Nat.log2 denominator - 52
  let guess := if rounded numerator denominator guess < leadingBit then guess - 1 else guess
  max guess (-1074)

-- The bits of the floating point number that is nearest to a quotient. A significand that is
-- rounded up to the next power of two runs over into the exponent field, as it should.
def bitsOfRatio (numerator denominator : Nat) : UInt64 :=
  if numerator = 0 then 0
  else
    let power := unit numerator denominator
    let significand := rounded numerator denominator power
    if power < -1074 ∨ 971 < power then 0x7FF0000000000000
    else
      let field := (power + 1074).toNat
      let bits := if significand < leadingBit then significand
        else (field + 1) * leadingBit + (significand - leadingBit)
      UInt64.ofNat (min bits 0x7FF0000000000000)

-- The nearest floating point number to a whole number times a power of ten. Far outside of the
-- range it is infinite or zero.
def nearest (negative : Bool) (significand : Nat) (exponent : Int) : Float :=
  let size : Int := (toString significand).length + exponent
  let bits :=
    if significand = 0 ∨ size < -400 then 0
    else if 400 < size then 0x7FF0000000000000
    else if 0 ≤ exponent then bitsOfRatio (significand * Nat.pow 10 exponent.toNat) 1
    else bitsOfRatio significand (Nat.pow 10 (-exponent).toNat)
  Float.ofBits (if negative then bits ||| 0x8000000000000000 else bits)

-- A sign, digits with a point before, behind or between them, and an exponent.
def read? (text : List Char) : Option Float :=
  let (negative, rest) := signed text
  let (whole, wholeCount, rest) := digits 0 0 rest
  let (value, fractionCount, rest) := match rest with
    | '.' :: rest => digits whole 0 rest
    | rest => (whole, 0, rest)
  if wholeCount + fractionCount = 0 then none
  else (exponent? rest).map fun e => nearest negative value (e - fractionCount)

end Real

end Switchboard.Decimal
