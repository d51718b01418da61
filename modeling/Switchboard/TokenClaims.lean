import Std.Data.HashMap
import Switchboard.CompileError

namespace Switchboard

-- Which method was the first to claim each token.
structure TokenClaims where
  owners : Std.HashMap String String

namespace TokenClaims

def empty : TokenClaims := ⟨∅⟩

instance : EmptyCollection TokenClaims := ⟨empty⟩

def owner? (claims : TokenClaims) (token : String) : Option String := claims.owners[token]?

-- A refused claim leaves the earlier owner in place.
def claim {H : Type} (claims : TokenClaims) (method : Method H) :
    Except CompileError TokenClaims :=
  match claims.owner? method.token with
  | some first => .error (.duplicateToken method.token first method.name)
  | none => .ok ⟨claims.owners.insert method.token method.name⟩

def size (claims : TokenClaims) : Nat := claims.owners.size

def isEmpty (claims : TokenClaims) : Bool := claims.owners.isEmpty

end TokenClaims

end Switchboard
