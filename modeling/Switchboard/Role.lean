import Switchboard.Journal
import Switchboard.Method
import Switchboard.Text.Letters

namespace Switchboard

-- The two methods that take what no action claims.
inductive SinkKind where
  | integer
  | string
deriving DecidableEq, Repr

namespace SinkKind

def name : SinkKind → String
  | .integer => "integer"
  | .string => "string"

def methodName : SinkKind → String
  | .integer => Method.integerSinkName
  | .string => Method.stringSinkName

end SinkKind

-- The part that a method plays in dispatch.
inductive Role where
  | action
  | sink (kind : SinkKind)
  | excluded
  | ignored
deriving DecidableEq, Repr

namespace Role

def name : Role → String
  | .action => "action"
  | .sink .integer => "integer_sink"
  | .sink .string => "string_sink"
  | .excluded => "excluded"
  | .ignored => "ignored"

def sinkKind? : Role → Option SinkKind
  | .sink kind => some kind
  | _ => none

end Role

private def startsIdentifier (c : Char) : Bool := c == '_' || Text.isLetter c

private def continuesIdentifier (c : Char) : Bool := c == '_' || Text.isLetterOrNumber c

def isIdentifier (name : String) : Bool :=
  match name.toList with
  | [] => false
  | first :: rest => startsIdentifier first && rest.all continuesIdentifier

theorem eq_underscore_or_isLetterOrNumber {name : String} {c : Char}
    (hname : isIdentifier name = true) (hmem : c ∈ name.toList) :
    c = '_' ∨ Text.isLetterOrNumber c = true := by
  unfold isIdentifier at hname
  cases hchars : name.toList with
  | nil =>
      rw [hchars] at hname
      cases hname
  | cons first rest =>
      simp only [hchars, Bool.and_eq_true, List.all_eq_true, startsIdentifier,
        continuesIdentifier, Bool.or_eq_true, beq_iff_eq] at hname
      rcases List.mem_cons.mp (hchars ▸ hmem) with rfl | hrest
      · refine hname.1.imp_right fun hletter => ?_
        rw [Text.isLetterOrNumber, show Text.alphabetic.contains c = true from hletter,
          Bool.true_or]
      · exact hname.2 c hrest

namespace Method

variable {H : Type}

-- The reserved names come first, so that a badly declared sink is reported instead of being
-- passed over, and an exclusion mark does not hide it.
def role (method : Method H) : Role :=
  if method.name = integerSinkName then .sink .integer
  else if method.name = stringSinkName then .sink .string
  else if method.excluded then .excluded
  else if isIdentifier method.name && method.signature = .nullary then .action
  else .ignored

end Method

def compileTarget : String := "textdispatch-core::compile"

-- Every method of a set is told with its part, in the order of declaration.
def tellRoles {H : Type} : List (Method H) → Logged Unit
  | [] => pure ()
  | method :: rest => do
      tell {
        level := .debug
        target := compileTarget
        message := "classified method"
        fields := [("method", .text method.name), ("role", .text method.role.name)] }
      tellRoles rest

end Switchboard
