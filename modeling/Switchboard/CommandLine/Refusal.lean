import Switchboard.CommandLine.Grammar

namespace Switchboard.CommandLine

-- What is wrong with a command line. Parameters and choices appear as they are written.
inductive Cause where
  | unknownArgument (given : String)
  | unknownCommand (given : String)
  | valueNotWanted (given parameter : String)
  | valueRequired (parameter : String) (choices : List String)
  | noSuchChoice (given parameter : String) (choices : List String)
  | malformedValue (given parameter reason : String)
  | repeated (parameter : String)
  | conflict (first second : String)
  | parametersRequired (parameters : List String)
  | commandRequired (program : String) (commands : List String)
  | notText
deriving DecidableEq, Repr

namespace Cause

private def listed (title : String) (names : List String) : String :=
  if names.isEmpty then ""
  else "\n  [" ++ title ++ ": " ++ ", ".intercalate names ++ "]"

def message : Cause → String
  | .unknownArgument given => "unexpected argument '" ++ given ++ "' found"
  | .unknownCommand given => "unrecognized subcommand '" ++ given ++ "'"
  | .valueNotWanted given parameter =>
      "unexpected value '" ++ given ++ "' for '" ++ parameter ++ "' found; no more were expected"
  | .valueRequired parameter choices =>
      "a value is required for '" ++ parameter ++ "' but none was supplied" ++
        listed "possible values" choices
  | .noSuchChoice given parameter choices =>
      "invalid value '" ++ given ++ "' for '" ++ parameter ++ "'" ++
        listed "possible values" choices
  | .malformedValue given parameter reason =>
      "invalid value '" ++ given ++ "' for '" ++ parameter ++ "': " ++ reason
  | .repeated parameter => "the argument '" ++ parameter ++ "' cannot be used multiple times"
  | .conflict first second =>
      "the argument '" ++ first ++ "' cannot be used with '" ++ second ++ "'"
  | .parametersRequired parameters =>
      "the following required arguments were not provided:" ++
        String.join (parameters.map fun parameter => "\n  " ++ parameter)
  | .commandRequired program commands =>
      "'" ++ program ++ "' requires a subcommand but one was not provided" ++
        listed "subcommands" commands
  | .notText => "invalid UTF-8 was detected in one or more arguments"

end Cause

-- A hint at what may have been meant.
inductive Tip where
  | similar (noun : String) (names : List String)
  | elsewhere (command flag : String)
  | asValue (given : String)
  | withoutSeparator (command : String)
deriving DecidableEq, Repr

namespace Tip

private def quotedNames (names : List String) : String :=
  ", ".intercalate (names.map fun name => "'" ++ name ++ "'")

def message : Tip → String
  | .similar noun [name] => "a similar " ++ noun ++ " exists: '" ++ name ++ "'"
  | .similar noun names => "some similar " ++ noun ++ "s exist: " ++ quotedNames names
  | .elsewhere command flag => "'" ++ command ++ " " ++ flag ++ "' exists"
  | .asValue given => "to pass '" ++ given ++ "' as a value, use '-- " ++ given ++ "'"
  | .withoutSeparator command =>
      "subcommand '" ++ command ++ "' exists; to use it, remove the '--' before it"

end Tip

-- A command line that is not followed, with what its author is told.
structure Refusal where
  cause : Cause
  tips : List Tip
  usage : Option String
deriving DecidableEq, Repr

namespace Refusal

private def tipLines (tips : List Tip) : String :=
  if tips.isEmpty then ""
  else "\n" ++ String.join (tips.map fun tip => "\n  tip: " ++ tip.message)

private def usageLine : Option String → String
  | none => ""
  | some usage => "\n\n" ++ usage

def message (refusal : Refusal) : String :=
  "error: " ++ refusal.cause.message ++ tipLines refusal.tips ++ usageLine refusal.usage ++
    "\n\nFor more information, try '--help'.\n"

end Refusal

end Switchboard.CommandLine
