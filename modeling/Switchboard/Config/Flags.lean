import Switchboard.CommandLine.Walk
import Switchboard.Config.Value

namespace Switchboard

-- What is said of a name that no choice has.
def unknownNameText : String := "Matching variant not found"

-- The settings that a command line gives, and the file that it names for the others.
structure ConfigFlags where
  file : Option SystemText
  logFilter : Option String
  logFormat : Option LogFormat
  domain : Option Domain
  tapeLength : Option UInt64
deriving DecidableEq, Repr

namespace ConfigFlags

open CommandLine

def none : ConfigFlags := ⟨.none, .none, .none, .none, .none⟩

-- Here, and only here, names of choices may be written in either case.
def choice {α : Type} [Choice α] (item : SystemText) : Except ValueFault α := do
  let text ← textOf item
  match Choice.ofNameAnyCase? text with
  | some value => return value
  | .none => throw (.malformed text unknownNameText)

private def length (item : SystemText) : Except ValueFault UInt64 := do
  let text ← textOf item
  match Numeral.read (.unsigned 64) text.toList with
  | .ok value => return UInt64.ofNat value.toNat
  | .error fault => throw (.malformed text fault.message)

private def fileFlag : Parameter ConfigFlags where
  label := "PATH"
  about := "Path to the configuration file"
  long := some "config-path"
  hidden := true
  store item flags :=
    if item.bytes.isEmpty then .error .absent else .ok { flags with file := some item }

private def logFilterFlag : Parameter ConfigFlags where
  label := "LOG_FILTER"
  about := ""
  long := some "log-filter"
  short := some 'l'
  store item flags := do return { flags with logFilter := some (← textOf item) }

def logFormatFlag : Parameter ConfigFlags where
  label := "LOG_FORMAT"
  about := ""
  long := some "log-format"
  short := some 'L'
  store item flags := do return { flags with logFormat := some (← choice item) }

def domainFlag : Parameter ConfigFlags where
  label := "NUMERIC_DOMAIN"
  about := ""
  long := some "numeric-domain"
  short := some 'n'
  store item flags := do return { flags with domain := some (← choice item) }

private def tapeLengthFlag : Parameter ConfigFlags where
  label := "TAPE_LENGTH"
  about := ""
  long := some "tape-length"
  short := some 't'
  store item flags := do return { flags with tapeLength := some (← length item) }

private def settingFlags : List (Parameter ConfigFlags) :=
  [logFilterFlag, logFormatFlag, domainFlag, tapeLengthFlag]

def form : Form ConfigFlags where
  name := "textdispatch-config"
  about := some "CLI parser struct generated by `OrthoConfig` for `Config`"
  version := .none
  parameters := settingFlags ++ [fileFlag]

-- The flags by their full names.
def names : List String :=
  (fileFlag :: settingFlags).filterMap fun option => option.long.map fun long => "--" ++ long

-- Reads a command line that consists of flags alone.
def read (called : Option String) (items : List SystemText) : Except Stop ConfigFlags :=
  form.read (called.getD form.name) none items

-- The flags that repeat all standard settings.
def standard : ConfigFlags where
  file := .none
  logFilter := some Config.standard.logFilter
  logFormat := some Config.standard.logFormat
  domain := some Config.standard.domain
  tapeLength := some Config.standard.tapeLength

-- What the flags say, as the uppermost of all layers. The standard settings as a whole say
-- nothing.
def layer (flags : ConfigFlags) : Layer :=
  let entry (key : String) (value : Option Value) : Layer :=
    (value.map fun value => (key, value)).toList
  if flags = standard then []
  else entry Config.logFilterKey (flags.logFilter.map .text) ++
    entry Config.logFormatKey (flags.logFormat.map fun format => .text format.name) ++
    entry Config.domainKey (flags.domain.map fun domain => .text domain.name) ++
    entry Config.tapeLengthKey (flags.tapeLength.map fun length => .integer length.toNat)

end ConfigFlags

end Switchboard
