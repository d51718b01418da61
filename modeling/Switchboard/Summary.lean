import Switchboard.Table

namespace Switchboard

structure ActionSummary where
  token : String
  method : String
deriving DecidableEq, Repr

-- What a table does, without the methods themselves.
structure Summary where
  actions : List ActionSummary
  integerSink : Option String
  stringSink : Option String
  domain : Domain
deriving DecidableEq, Repr

namespace Summary

-- The widest token, in characters.
def tokenWidth (summary : Summary) : Nat :=
  summary.actions.foldl (fun width action => max width action.token.length) 0

def padRight (width : Nat) (text : String) : String :=
  text ++ String.ofList (List.replicate (width - text.length) ' ')

def actionLine (width : Nat) (action : ActionSummary) : String :=
  padRight width action.token ++ "  -> " ++ action.method

def integerLine (summary : Summary) : String :=
  match summary.integerSink with
  | some method => "integers (" ++ summary.domain.name ++ ") -> " ++ method
  | none => "integers -> (none)"

def stringLine (summary : Summary) : String :=
  match summary.stringSink with
  | some method => "strings -> " ++ method
  | none => "strings -> (none)"

-- One line for each action and one for each sink, whether bound or not.
def lines (summary : Summary) : List String :=
  summary.actions.map (actionLine summary.tokenWidth) ++
    [summary.integerLine, summary.stringLine]

def describe (summary : Summary) : String := "\n".intercalate summary.lines

def toJson (summary : Summary) : Json :=
  .object [
    ("actions", .array (summary.actions.map fun action =>
      .object [("token", .text action.token), ("method", .text action.method)])),
    ("integer_sink", .ofOption .text summary.integerSink),
    ("string_sink", .ofOption .text summary.stringSink),
    ("numeric_domain", .text summary.domain.name)]

end Summary

namespace Table

variable {H : Type}

def summary (table : Table H) : Summary where
  actions := table.actions.toList.map fun action => ⟨action.token, action.method⟩
  integerSink := table.integerSink.map (·.method)
  stringSink := table.stringSink.map (·.method)
  domain := table.domain

end Table

end Switchboard
