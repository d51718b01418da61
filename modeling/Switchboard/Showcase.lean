import Switchboard.Table

namespace Switchboard

-- A handler with one method of every role. It writes down what it is called for.
structure Showcase where
  lines : List String
deriving DecidableEq, Repr

-- A handler with one action and no sinks, to show that each handler type has a table of its own.
structure Companion where
  lines : List String
deriving DecidableEq, Repr

namespace Showcase

def say (line : String) (showcase : Showcase) : Showcase := ⟨showcase.lines ++ [line]⟩

instance : Handler Showcase where
  methods := [
    (Method.helper "Main" 0 true).hidden,
    Method.action "M" (say "OK calling an instance method."),
    Method.action "N" (say "OK calling another instance method."),
    Method.action "S" (say "OK calling static methods."),
    Method.integerSink fun showcase value =>
      say ("OK parsing the int got " ++ toString value.toInt) showcase,
    Method.stringSink fun showcase text =>
      say ("OK parsing the string got " ++ text) showcase,
    Method.helper "K1" 1 true,
    Method.helper "K2" 1 false]

end Showcase

namespace Companion

def say (line : String) (companion : Companion) : Companion := ⟨companion.lines ++ [line]⟩

instance : Handler Companion where
  methods := [
    Method.action "M" (say "OK having multiple dispatchers."),
    Method.helper "K1" 1 true,
    Method.helper "K2" 1 false]

end Companion

-- Why the self-test of both handlers stops early.
inductive ShowcaseFault where
  | compile (cause : CompileError)
  | dispatch (cause : DispatchError)
  | helperDispatched (token : String)
deriving DecidableEq, Repr

namespace ShowcaseFault

def message : ShowcaseFault → String
  | .compile cause => cause.message
  | .dispatch cause => cause.message
  | .helperDispatched token => "helper '" ++ token ++ "' was dispatched but should be hidden"

end ShowcaseFault

namespace Showcase

def tokens : List String := ["M", "N", "S", "64", "'Not recognizable string'"]

-- Helpers of the companion that must stay out of reach, each with the reason.
def helpers : List (String × String) := [
  ("K1", "multiple parameters methods"),
  ("K2", "not void returning methods")]

def eventTarget : String := "textdispatch-demos::showcase"

-- One line for each helper that is refused.
def refuseHelpers (table : Table Companion) : Companion → List (String × String) →
    ExceptT ShowcaseFault Logged (List String)
  | _, [] => return []
  | companion, (token, reason) :: rest => do
      match ← table.dispatch companion token with
      | (.ok _, _) => throw (.helperDispatched token)
      | (.error cause, companion) =>
          tell {
            level := .debug
            target := eventTarget
            message := "helper rejected as expected"
            fields := [("error", .word cause.message)] }
          return ("OK not dispatching to " ++ reason ++ ".") ::
            (← refuseHelpers table companion rest)

private def orStop {ε α : Type} (wrap : ε → ShowcaseFault) (result : Except ε α) :
    ExceptT ShowcaseFault Logged α :=
  ExceptT.mk (pure (result.mapError wrap))

-- The lines that both handlers write in a whole self-test.
def selfTest (domain : Domain) : ExceptT ShowcaseFault Logged (List String) := do
  let table ← orStop .compile (← Handler.compileTable Showcase domain)
  let (result, showcase) ← table.dispatchAll ⟨[]⟩ tokens
  let _ ← orStop .dispatch result
  let companionTable ← orStop .compile (← Handler.compileTable Companion domain)
  let (result, companion) ← companionTable.dispatch ⟨[]⟩ "M"
  let _ ← orStop .dispatch result
  let refusals ← refuseHelpers companionTable companion helpers
  return showcase.lines ++ companion.lines ++ refusals

end Showcase

end Switchboard
