import Switchboard.Choice
import Switchboard.CommandLine.Walk
import Switchboard.Files.Path
import Switchboard.Numeral

namespace Switchboard

-- How results are rendered: for people, or as one document for tools.
inductive OutputFormat where
  | human
  | json
deriving DecidableEq, Repr

namespace OutputFormat

def name : OutputFormat → String
  | .human => "human"
  | .json => "json"

instance : Choice OutputFormat where
  all := [.human, .json]
  name := name

def meaning : OutputFormat → String
  | .human => "Plain text for people"
  | .json => "A single JSON document for tools"

end OutputFormat

-- The handlers that come with the program.
inductive HandlerName where
  | brainf
  | forth
  | showcase
  | second
deriving DecidableEq, Repr

namespace HandlerName

def name : HandlerName → String
  | .brainf => "brainf"
  | .forth => "forth"
  | .showcase => "showcase"
  | .second => "second"

instance : Choice HandlerName where
  all := [.brainf, .forth, .showcase, .second]
  name := name

def meaning : HandlerName → String
  | .brainf => "The byte-tape interpreter"
  | .forth => "The stack interpreter"
  | .showcase => "The self-test handler with every method role"
  | .second => "The single-action companion of the showcase"

end HandlerName

-- What the program can be told to do.
inductive Command where
  | tape (file code : Option String) (input : String)
  | stack (lines : List String)
  | demo
  | describe (handler : HandlerName)
  | encode (handler : HandlerName) (tokens : List String)
  | decode (handler : HandlerName) (ids : List UInt16)
deriving DecidableEq, Repr

-- A command, and how to render what comes of it.
structure Order where
  command : Command
  format : OutputFormat
deriving DecidableEq, Repr

namespace Order

open CommandLine

-- What a command line has given so far.
structure Draft where
  format : Option OutputFormat
  file : Option String
  code : Option String
  input : Option String
  handler : Option HandlerName
  words : List String
  ids : List UInt16

def blank : Draft := ⟨none, none, none, none, none, [], []⟩

private def choice {α : Type} [Choice α] (item : SystemText) : Except ValueFault α :=
  match item.text?.bind Choice.ofName? with
  | some value => .ok value
  | none => .error (if item.bytes.isEmpty then .absent else .notListed item.shown)

private def idLimit : Int := 65535

-- Numbers of 64 bits are read, and those that are no id are told apart from what is no number.
private def catalogId (item : SystemText) : Except ValueFault UInt16 := do
  let text ← textOf item
  match Numeral.read (.signed 64) text.toList with
  | .error fault => throw (.malformed text fault.message)
  | .ok value =>
      if 0 ≤ value ∧ value ≤ idLimit then return UInt16.ofNat value.toNat
      else throw (.malformed text
        (toString value ++ " is not in 0..=" ++ toString idLimit))

private def outputOption : Parameter Draft where
  label := "OUTPUT"
  about := "Controls how results are rendered"
  long := some "output"
  choices := (Choice.all : List OutputFormat).map fun format => (format.name, format.meaning)
  preset := some OutputFormat.human.name
  store item draft := do return { draft with format := some (← choice item) }

private def sharedOutput : Parameter Draft := { outputOption with shared := true }

private def filePlace : Parameter Draft where
  label := "FILE"
  about := "Program file to run"
  excludes := ["CODE"]
  store item draft := do return { draft with file := some (← textOf item) }

private def codeOption : Parameter Draft where
  label := "CODE"
  about := "Program text to run"
  long := some "code"
  store item draft := do return { draft with code := some (← textOf item) }

private def inputOption : Parameter Draft where
  label := "INPUT"
  about := "Bytes made available to `,`"
  long := some "input"
  preset := some "\"\""
  store item draft := do return { draft with input := some (← textOf item) }

private def handlerPlace (about : String) : Parameter Draft where
  label := "HANDLER"
  about := about
  required := true
  choices := (Choice.all : List HandlerName).map fun handler => (handler.name, handler.meaning)
  store item draft := do return { draft with handler := some (← choice item) }

private def wordPlaces (label about : String) : Parameter Draft where
  label := label
  about := about
  required := true
  many := true
  takesDashes := true
  store item draft := do return { draft with words := draft.words ++ [← textOf item] }

private def idPlaces : Parameter Draft where
  label := "ID"
  about := "Ids to decode"
  required := true
  many := true
  store item draft := do return { draft with ids := draft.ids ++ [← catalogId item] }

private def formOf (name about : String) (parameters : List (Parameter Draft)) : Form Draft :=
  ⟨name, some about, none, parameters⟩

def programName : String := "textdispatch"

def program : Program Draft where
  form := ⟨programName, some "Compiles handler method sets into dispatch tables and drives them",
    some (programName ++ " 0.1.0"), [outputOption]⟩
  commands := [
    formOf "bf" "Runs a BrainF program from a file or from `--code`"
      [filePlace, codeOption, sharedOutput, inputOption],
    formOf "forth" "Executes each argument as one Forth line"
      [wordPlaces "LINE" "Lines to execute in order", sharedOutput],
    formOf "demo" "Runs the showcase and both interpreters' bundled programs" [sharedOutput],
    formOf "describe" "Prints a handler's compiled dispatch table"
      [handlerPlace "Handler to describe", sharedOutput],
    formOf "encode" "Encodes action tokens into catalog ids"
      [handlerPlace "Handler whose catalog to use", wordPlaces "TOKEN" "Tokens to encode",
        sharedOutput],
    formOf "decode" "Decodes catalog ids back into tokens"
      [handlerPlace "Handler whose catalog to use", idPlaces, sharedOutput]]

private def commandOf (name : String) (draft : Draft) : Option Command :=
  match name, draft.handler with
  | "bf", _ => some (.tape draft.file draft.code (draft.input.getD ""))
  | "forth", _ => some (.stack draft.words)
  | "demo", _ => some .demo
  | "describe", some handler => some (.describe handler)
  | "encode", some handler => some (.encode handler draft.words)
  | "decode", some handler => some (.decode handler draft.ids)
  | _, _ => none

-- The format behind the command name outweighs the one in front of it.
private def formatOf (chosen : Chosen Draft) : OutputFormat :=
  (chosen.own.format.orElse fun _ => chosen.before.format).getD .human

-- The program's own name for itself, if it can be told from how it was called.
def calledName? (called : SystemText) : Option String := do
  Path.lastName? (← called.text?)

-- Reads the command line behind the program's name.
def read (called : Option String) (items : List SystemText) : Except Stop Order := do
  let chosen ← program.read called blank items
  match commandOf chosen.command chosen.own with
  | some command => return ⟨command, formatOf chosen⟩
  | none =>
      throw (.refused ⟨.commandRequired programName (program.commands.map (·.name)), [], none⟩)

end Order

end Switchboard
