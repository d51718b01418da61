import Switchboard.CommandLine.Usage
import Switchboard.Text.Layout

namespace Switchboard.CommandLine

-- A page of help is short, with one line for each parameter, or long, with a paragraph for each.
namespace Help

variable {D : Type}

open Text (spaces)

private def padded (width : Nat) (text : String) : String :=
  text ++ spaces (width - text.length)

-- What can be given, and all that is known about it.
structure Row where
  head : String
  about : String
  choices : List (String × String)
  preset : Option String

private def widest (texts : List String) : Nat :=
  texts.foldl (fun width text => max width text.length) 0

private def optionHead (parameter : Parameter D) : String :=
  match parameter.short with
  | some short => "-" ++ String.singleton short ++ ", " ++ parameter.written true
  | none => "    " ++ parameter.written true

private def rowOf (head : String) (parameter : Parameter D) : Row :=
  ⟨head, parameter.about, parameter.choices, parameter.preset⟩

-- Only choices that say what they mean make a page longer.
def isDetailed (form : Form D) : Bool :=
  form.parameters.any fun parameter => !parameter.hidden && !parameter.choices.isEmpty

private def helpAbout (form : Form D) (long : Bool) : String :=
  if !isDetailed form then "Print help"
  else if long then "Print help (see a summary with '-h')"
  else "Print help (see more with '--help')"

private def optionRows (form : Form D) (long : Bool) : List Row :=
  let own := (form.options.filter fun option => !option.hidden).map fun option =>
    rowOf (optionHead option) option
  let help : Row := ⟨"-h, --help", helpAbout form long, [], none⟩
  let version : List Row :=
    if form.version.isSome then [⟨"-V, --version", "Print version", [], none⟩] else []
  own ++ [help] ++ version

private def positionalRows (form : Form D) : List Row :=
  form.positionals.map fun parameter => rowOf parameter.title parameter

private def presetNote : Option String → List String
  | none => []
  | some preset => ["[default: " ++ preset ++ "]"]

private def choiceNote (choices : List (String × String)) : List String :=
  if choices.isEmpty then []
  else ["[possible values: " ++ ", ".intercalate (choices.map (·.1)) ++ "]"]

private def shortRow (width : Nat) (row : Row) : String :=
  "  " ++ padded width row.head ++ "  " ++
    " ".intercalate (row.about :: presetNote row.preset ++ choiceNote row.choices)

private def shortRows (rows : List Row) : String :=
  "\n".intercalate (rows.map (shortRow (widest (rows.map (·.head)))))

private def longChoices (choices : List (String × String)) : List String :=
  if choices.isEmpty then []
  else
    let width := widest (choices.map (·.1)) + 1
    let line := fun (choice : String × String) =>
      "          - " ++ padded width (choice.1 ++ ":") ++ " " ++ choice.2
    ["\n\n          Possible values:\n" ++ "\n".intercalate (choices.map line)]

private def longPreset (preset : Option String) : List String :=
  (presetNote preset).map fun note => "\n          \n          " ++ note

private def longRow (row : Row) : String :=
  "  " ++ row.head ++ "\n          " ++ row.about ++
    String.join (longChoices row.choices ++ longPreset row.preset)

private def longRows (rows : List Row) : String := "\n\n".intercalate (rows.map longRow)

private def rowText (long : Bool) (rows : List Row) : String :=
  if long then longRows rows else shortRows rows

private def headed (title : String) (rows : List Row) (text : List Row → String) : List String :=
  if rows.isEmpty then [] else [title ++ ":\n" ++ text rows]

private def commandRows (commands : List (Form D)) : List Row :=
  commands.map fun form => ⟨form.name, form.about.getD "", [], none⟩

-- A form without details has no long page of its own.
def page (scope : Scope D) (long : Bool) : String :=
  let long := long && isDetailed scope.form
  "\n\n".intercalate (scope.form.about.toList ++ [scope.usage] ++
    headed "Commands" (commandRows scope.commands) shortRows ++
    headed "Arguments" (positionalRows scope.form) (rowText long) ++
    headed "Options" (optionRows scope.form long) (rowText long)) ++ "\n"

end Help

end Switchboard.CommandLine
