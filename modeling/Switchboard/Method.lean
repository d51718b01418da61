import Switchboard.Journal
import Switchboard.Text.Quoted

namespace Switchboard

-- What becomes of a handler when a method is called, and what the method tells, for it may dispatch
-- tokens itself. A sink is also given what it accepts.
inductive Binding (H : Type) where
  | action (run : H → Told H)
  | integer (run : H → Int64 → Told H)
  | text (run : H → String → Told H)

namespace Binding

variable {H : Type}

def shape : Binding H → String
  | .action _ => "action"
  | .integer _ => "integer"
  | .text _ => "text"

end Binding

structure Signature where
  parameterCount : Nat
  returnsVoid : Bool
deriving DecidableEq, Repr

namespace Signature

def nullary : Signature := ⟨0, true⟩

end Signature

-- One method of a handler type as its author declares it. The marks that a compiler reads are
-- part of the declaration: another token to answer to, and the wish to stay out of dispatch.
structure Method (H : Type) where
  name : String
  signature : Signature
  aliasToken : Option String
  excluded : Bool
  binding : Option (Binding H)

namespace Method

variable {H : Type}

def integerSinkName : String := "ParseInt"

def stringSinkName : String := "ParseString"

def unbound (name : String) (signature : Signature) : Method H where
  name := name
  signature := signature
  aliasToken := none
  excluded := false
  binding := none

-- A later binding replaces an earlier one, and so does a later alias.
def bind (method : Method H) (binding : Binding H) : Method H :=
  { method with binding := some binding }

def answersTo (method : Method H) (token : String) : Method H :=
  { method with aliasToken := some token }

def hidden (method : Method H) : Method H := { method with excluded := true }

def action (name : String) (run : H → Told H) : Method H :=
  (unbound name .nullary).bind (.action run)

def integerSink (run : H → Int64 → Told H) : Method H :=
  (unbound integerSinkName ⟨1, true⟩).bind (.integer run)

def stringSink (run : H → String → Told H) : Method H :=
  (unbound stringSinkName ⟨1, true⟩).bind (.text run)

def helper (name : String) (parameterCount : Nat) (returnsVoid : Bool) : Method H :=
  unbound name ⟨parameterCount, returnsVoid⟩

-- A method answers to its alias alone when it has one.
def token (method : Method H) : String := method.aliasToken.getD method.name

private def showFlag (flag : Bool) : String := if flag then "true" else "false"

private def showOption (value : Option String) : String :=
  match value with
  | none => "None"
  | some text => "Some(" ++ text ++ ")"

-- A listing of all that was declared, for people who look for a mistake in a method set.
def listing (method : Method H) : String :=
  "MethodDescriptor \x7b name: " ++ Text.quoted method.name ++
    ", signature: Signature \x7b parameter_count: " ++ toString method.signature.parameterCount ++
    ", returns_void: " ++ showFlag method.signature.returnsVoid ++
    " \x7d, alias: " ++ showOption (method.aliasToken.map Text.quoted) ++
    ", excluded: " ++ showFlag method.excluded ++
    ", binding: " ++ showOption (method.binding.map fun b => "Binding::" ++ b.shape) ++ " \x7d"

end Method

end Switchboard
