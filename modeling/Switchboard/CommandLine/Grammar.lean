import Switchboard.CommandLine.Spelling

namespace Switchboard.CommandLine

-- Why one value is refused.
inductive ValueFault where
  | absent
  | notText
  | notListed (given : String)
  | malformed (given reason : String)
deriving DecidableEq, Repr

def textOf (item : SystemText) : Except ValueFault String :=
  match item.text? with
  | some text => .ok text
  | none => .error .notText

-- A value that a command may be given: by its name, which makes it an option, or by its place.
-- The values end up in a draft of the command.
structure Parameter (D : Type) where
  label : String
  about : String
  long : Option String := none
  short : Option Char := none
  required : Bool := false
  many : Bool := false
  -- Also an item that starts with a dash is a value.
  takesDashes : Bool := false
  hidden : Bool := false
  -- It belongs to the whole program and not to the form it stands in.
  shared : Bool := false
  -- The values to choose from, each with what it means.
  choices : List (String × String) := []
  preset : Option String := none
  -- Labels of what it cannot stand beside.
  excludes : List String := []
  store : SystemText → D → Except ValueFault D

namespace Parameter

variable {D : Type}

def isOption (parameter : Parameter D) : Bool := parameter.long.isSome || parameter.short.isSome

-- How the parameter is written where it must be given, or else where it may be left out.
def written (parameter : Parameter D) (needed : Bool) : String :=
  let dots := if parameter.many then "..." else ""
  match parameter.long, parameter.short with
  | some long, _ => "--" ++ long ++ " <" ++ parameter.label ++ ">"
  | none, some short => "-" ++ String.singleton short ++ " <" ++ parameter.label ++ ">"
  | none, none =>
      if needed then "<" ++ parameter.label ++ ">" ++ dots
      else "[" ++ parameter.label ++ "]" ++ dots

def title (parameter : Parameter D) : String := parameter.written parameter.required

-- How the parameter is written where it is one of several to choose from.
def alternative (parameter : Parameter D) : String :=
  if parameter.isOption then parameter.written true else parameter.label

def choiceNames (parameter : Parameter D) : List String := parameter.choices.map (·.1)

end Parameter

-- A command and what it can be given. Every command can be asked for help, and the ones with a
-- version for that.
structure Form (D : Type) where
  name : String
  about : Option String
  version : Option String
  parameters : List (Parameter D)

namespace Form

variable {D : Type}

def options (form : Form D) : List (Parameter D) := form.parameters.filter (·.isOption)

def positionals (form : Form D) : List (Parameter D) :=
  form.parameters.filter fun parameter => !parameter.isOption

-- The parameters that no other form has.
def own (form : Form D) : List (Parameter D) :=
  form.parameters.filter fun parameter => !parameter.shared

def longNames (form : Form D) : List String :=
  form.options.filterMap (·.long) ++ ["help"] ++ (if form.version.isSome then ["version"] else [])

def longOption? (form : Form D) (name : String) : Option (Parameter D) :=
  form.options.find? fun parameter => parameter.long == some name

def shortOption? (form : Form D) (letter : Char) : Option (Parameter D) :=
  form.options.find? fun parameter => parameter.short == some letter

def knowsLetter (form : Form D) (letter : Char) : Bool :=
  letter == 'h' || (letter == 'V' && form.version.isSome) || (form.shortOption? letter).isSome

end Form

-- The form that is being read, the commands that may follow in it, and the words that lead to it.
structure Scope (D : Type) where
  form : Form D
  commands : List (Form D)
  path : String

end Switchboard.CommandLine
