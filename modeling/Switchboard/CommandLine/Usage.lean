import Switchboard.CommandLine.Grammar

namespace Switchboard.CommandLine

namespace Scope

variable {D : Type}

-- An option is written in full where it was used, and else all of them are meant by one word.
private def optionWords (scope : Scope D) (used : List String) : List String :=
  if used.isEmpty then
    if scope.form.options.any fun option => !option.hidden then ["[OPTIONS]"] else []
  else used.filterMap fun label =>
    match scope.form.parameters.find? fun parameter => parameter.label == label with
    | none => some label
    | some parameter => if parameter.isOption then some (parameter.written true) else none

private def positionalWords (scope : Scope D) (used : List String) : List String :=
  scope.form.positionals.map fun parameter =>
    parameter.written (parameter.required || used.contains parameter.label)

private def commandWords (scope : Scope D) : List String :=
  if scope.commands.isEmpty then [] else ["<COMMAND>"]

private def line (scope : Scope D) (words : List String) : String :=
  " ".intercalate (["Usage:", scope.path] ++ words ++ scope.commandWords)

-- One line that shows how to write the command, with the parameters that were used.
def usageWith (scope : Scope D) (used : List String) : String :=
  let shown := used.filter fun label =>
    !scope.form.parameters.any fun parameter => parameter.label == label && parameter.hidden
  scope.line (scope.optionWords shown ++ scope.positionalWords shown)

-- The line that offers all parameters of the form's own as alternatives in one word.
def usageOfAny (scope : Scope D) (used : List String) : String :=
  let own := scope.form.own
  let others := used.filter fun label => !own.any fun parameter => parameter.label == label
  scope.line (scope.optionWords others ++
    ["<" ++ "|".intercalate (own.map (·.alternative)) ++ ">"])

def usage (scope : Scope D) : String := scope.usageWith []

end Scope

end Switchboard.CommandLine
