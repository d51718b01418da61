import Switchboard.Choice
import Switchboard.Numeral

namespace Switchboard

-- The signed integers of one width that an integer sink accepts.
inductive Domain where
  | i8
  | i16
  | i32
  | i64
deriving DecidableEq, Repr

namespace Domain

instance : Inhabited Domain := ⟨.i32⟩

def width : Domain → Nat
  | .i8 => 8
  | .i16 => 16
  | .i32 => 32
  | .i64 => 64

def range (domain : Domain) : Numeral.Range := .signed domain.width

def name : Domain → String
  | .i8 => "i8"
  | .i16 => "i16"
  | .i32 => "i32"
  | .i64 => "i64"

instance : Choice Domain where
  all := [.i8, .i16, .i32, .i64]
  name := name

-- Every width fits the widest, so the value of an accepted literal is a 64-bit cell.
def parse (domain : Domain) (token : String) : Option Int64 :=
  match Numeral.read domain.range token.toList with
  | .ok value => some (Int64.ofInt value)
  | .error _ => none

end Domain

end Switchboard
