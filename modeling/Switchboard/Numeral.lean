namespace Switchboard

-- Whole numbers in decimal: one optional sign and at least one digit from `0` to `9`.
namespace Numeral

-- Why a text is no number of a given range.
inductive Fault where
  | empty
  | invalidDigit
  | tooLarge
  | tooSmall
deriving DecidableEq, Repr

def Fault.message : Fault → String
  | .empty => "cannot parse integer from empty string"
  | .invalidDigit => "invalid digit found in string"
  | .tooLarge => "number too large to fit in target type"
  | .tooSmall => "number too small to fit in target type"

def digitValue (c : Char) : Int := (c.toNat : Int) - 48

-- A digit of a number to the base of sixteen, in either case.
def hexDigit? (c : Char) : Option Nat :=
  if c.isDigit then some (c.toNat - 48)
  else if 'a' ≤ c ∧ c ≤ 'f' then some (c.toNat - 87)
  else if 'A' ≤ c ∧ c ≤ 'F' then some (c.toNat - 55)
  else none

-- All whole numbers from a lowest one to a highest one.
structure Range where
  low : Int
  high : Int
deriving DecidableEq, Repr

namespace Range

-- The numbers that so many bits stand for, with one bit for the sign or without one.
def signed (width : Nat) : Range :=
  let half : Int := Nat.pow 2 (width - 1)
  ⟨-half, half - 1⟩

def unsigned (width : Nat) : Range :=
  let all : Int := Nat.pow 2 width
  ⟨0, all - 1⟩

def contains (range : Range) (value : Int) : Bool := range.low ≤ value ∧ value ≤ range.high

end Range

-- Adds one digit after another, with the sign of the whole number. A number that has left the
-- range cannot come back, so the first digit that leads out of it settles the answer, whatever
-- follows.
def accumulate (range : Range) (sign : Int) : Int → List Char → Except Fault Int
  | value, [] => .ok value
  | value, c :: rest =>
      if !c.isDigit then .error .invalidDigit
      else
        let next := value * 10 + sign * digitValue c
        if range.high < next then .error .tooLarge
        else if next < range.low then .error .tooSmall
        else accumulate range sign next rest

def digits (range : Range) (sign : Int) : List Char → Except Fault Int
  | [] => .error .invalidDigit
  | ds => accumulate range sign 0 ds

-- A minus sign is read only where the range has negative numbers.
def read (range : Range) : List Char → Except Fault Int
  | [] => .error .empty
  | '+' :: ds => digits range 1 ds
  | '-' :: ds => if range.low < 0 then digits range (-1) ds else .error .invalidDigit
  | ds => digits range 1 ds

end Numeral

end Switchboard
