namespace Switchboard.Decimal

-- The decimal text of a binary floating point number, with no more digits than it takes to tell
-- the number from its neighbours.
namespace Shortest

-- A positive number as a whole number times a power of two.
structure Binary where
  significand : Nat
  exponent : Int
deriving DecidableEq, Repr

-- The bit of a significand that is not stored.
def implicitBit : Nat := Nat.pow 2 52

-- The lowest bit of the exponent field stands for the same power of two as its absence.
def binaryOfBits (bits : UInt64) : Binary :=
  let fraction := (bits &&& 0xFFFFFFFFFFFFF).toNat
  let field := ((bits >>> 52) &&& 0x7FF).toNat
  if field = 0 then ⟨fraction, -1074⟩ else ⟨fraction + implicitBit, (field : Int) - 1075⟩

-- A quotient of two whole numbers.
structure Ratio where
  numerator : Nat
  denominator : Nat
deriving DecidableEq, Repr

namespace Ratio

def scale (base value : Nat) (exponent : Int) : Ratio :=
  if 0 ≤ exponent then ⟨value * base.pow exponent.toNat, 1⟩
  else ⟨value, base.pow (-exponent).toNat⟩

def times (a b : Ratio) : Ratio := ⟨a.numerator * b.numerator, a.denominator * b.denominator⟩

def le (a b : Ratio) : Bool := a.numerator * b.denominator ≤ b.numerator * a.denominator

def lt (a b : Ratio) : Bool := a.numerator * b.denominator < b.numerator * a.denominator

-- The distance between two quotients.
def gap (a b : Ratio) : Ratio :=
  let left := a.numerator * b.denominator
  let right := b.numerator * a.denominator
  ⟨(left - right) + (right - left), a.denominator * b.denominator⟩

end Ratio

-- The numbers that are read back as the same number. The ends belong to it when the significand
-- is even, and below a power of two the lower end is closer.
structure Interval where
  low : Ratio
  value : Ratio
  high : Ratio
  closed : Bool

def intervalOf (binary : Binary) : Interval :=
  let m := binary.significand
  let below := if m = implicitBit ∧ -1074 < binary.exponent then 4 * m - 1 else 4 * m - 2
  let at_ (n : Nat) := Ratio.scale 2 n (binary.exponent - 2)
  ⟨at_ below, at_ (4 * m), at_ (4 * m + 2), m % 2 == 0⟩

namespace Interval

def contains (interval : Interval) (x : Ratio) : Bool :=
  if interval.closed then interval.low.le x && x.le interval.high
  else interval.low.lt x && x.lt interval.high

end Interval

-- The power of ten just above a number, by trial from a lower bound.
def magnitudeFrom (value : Ratio) : (fuel : Nat) → Int → Int
  | 0, e => e
  | fuel + 1, e => if value.lt (Ratio.scale 10 1 e) then e else magnitudeFrom value fuel (e + 1)

def magnitude (value : Ratio) : Int := magnitudeFrom value 700 (-330)

-- The better of the two points next to the value on the grid of multiples of a power of ten, if
-- one of them is in the interval. Of two points that are equally far the even one is better.
def onGrid? (interval : Interval) (exponent : Int) : Option Nat :=
  let cell := Ratio.scale 10 1 exponent
  let value := interval.value
  let floor := (value.numerator * cell.denominator) / (value.denominator * cell.numerator)
  let point (n : Nat) := Ratio.times ⟨n, 1⟩ cell
  let below := floor ≠ 0 ∧ interval.contains (point floor)
  let above := interval.contains (point (floor + 1))
  if below ∧ above then
    let left := value.gap (point floor)
    let right := value.gap (point (floor + 1))
    if left.lt right then some floor
    else if right.lt left then some (floor + 1)
    else some (if floor % 2 = 0 then floor else floor + 1)
  else if below then some floor
  else if above then some (floor + 1)
  else none

-- The first grid with a point in the interval, from the coarsest on.
def search (interval : Interval) (top : Int) : (grids count : Nat) → Option (Nat × Int)
  | 0, _ => none
  | grids + 1, count =>
      let exponent := top - count
      match onGrid? interval exponent with
      | some n => some (n, exponent)
      | none => search interval top grids (count + 1)

def dropZeros : (fuel : Nat) → Nat → Int → Nat × Int
  | 0, n, e => (n, e)
  | fuel + 1, n, e => if n ≠ 0 ∧ n % 10 = 0 then dropZeros fuel (n / 10) (e + 1) else (n, e)

-- A whole number without trailing zeros and the power of ten it is multiplied with. Seventeen
-- digits are always enough.
def digits (binary : Binary) : Nat × Int :=
  let interval := intervalOf binary
  match search interval (magnitude interval.value) 17 1 with
  | some (n, e) => dropZeros 20 n e
  | none => (0, 0)

private def zeros (count : Nat) : String := String.ofList (List.replicate count '0')

-- An exponent has a sign and at least two digits.
private def exponentText (exponent : Int) : String :=
  let digits := toString exponent.natAbs
  (if exponent < 0 then "e-" else "e+") ++ zeros (2 - digits.length) ++ digits

-- Positional between a hundred-thousandth and ten quadrillions, and else with an exponent. A
-- positional text always has a point.
def layout (n : Nat) (e : Int) : String :=
  let ds := toString n
  let point : Int := ds.length + e
  if 0 ≤ e ∧ point ≤ 16 then ds ++ zeros e.toNat ++ ".0"
  else if 0 < point ∧ point ≤ 16 then
    String.ofList (ds.toList.take point.toNat) ++ "." ++ String.ofList (ds.toList.drop point.toNat)
  else if -5 < point ∧ point ≤ 0 then "0." ++ zeros (-point).toNat ++ ds
  else
    let whole := String.ofList (ds.toList.take 1)
    let rest := String.ofList (ds.toList.drop 1)
    whole ++ (if rest.isEmpty then "" else "." ++ rest) ++ exponentText (point - 1)

def ofBits (bits : UInt64) : String :=
  let binary := binaryOfBits bits
  let sign := if bits >>> 63 = 1 then "-" else ""
  if binary.significand = 0 then sign ++ "0.0"
  else
    let (n, e) := digits binary
    sign ++ layout n e

end Shortest

-- For a finite number.
def shortest (value : Float) : String := Shortest.ofBits value.toBits

end Switchboard.Decimal
