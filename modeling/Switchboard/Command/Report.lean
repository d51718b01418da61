import Switchboard.Command.Basic
import Switchboard.StackMachine
import Switchboard.Summary
import Switchboard.Text.Blank
import Switchboard.Text.Layout

namespace Switchboard

-- A line of the stack machine's self-test, with what it should print and what it prints.
structure Check where
  line : String
  expected : String
  actual : String
deriving DecidableEq, Repr

-- What a command has to tell.
inductive Report where
  | tape (printed : List UInt8) (pointer : Nat)
  | stack (printed : String) (cells : List Int64)
  | demo (showcase samples : List String) (checks : List Check)
  | description (summary : Summary)
  | encoded (ids : List UInt16)
  | decoded (tokens : List String)

namespace Report

-- Who makes a write: the one that puts a document together, or the one that writes lines. A write
-- that fails is told in the words of the one that makes it.
inductive Writer where
  | serialiser
  | lines
deriving DecidableEq, Repr

def lineWrite (text : String) : Writer × List UInt8 := (.lines, Text.Utf8.encode (text ++ "\n"))

def tabbed (text : String) : String := "\t" ++ text

def checkLine (check : Check) : String :=
  tabbed (Text.padLeft 5 check.expected ++ " == " ++ check.actual)

def cellTexts (cells : List Int64) : List String := cells.map fun cell => toString cell.toInt

-- For people, line by line. The bytes of a tape program are passed on as they are.
def forPeople : Report → List (Writer × List UInt8)
  | .tape printed _ => [(.lines, printed)]
  | .stack printed cells =>
      (if printed.isEmpty then [] else [lineWrite printed]) ++
        (if cells.isEmpty then [] else [lineWrite ("stack: " ++ " ".intercalate (cellTexts cells))])
  | .demo showcase samples checks =>
      (("SHOWCASE:" :: showcase.map tabbed) ++ ("BRAINF CAN EXECUTE:" :: samples.map tabbed) ++
        ("FORTH SELF TEST:" :: checks.map checkLine)).map lineWrite
  | .description summary => [lineWrite summary.describe]
  | .encoded ids => [lineWrite (" ".intercalate (ids.map fun id => toString id.toNat))]
  | .decoded tokens => [lineWrite (" ".intercalate tokens)]

def checkJson (check : Check) : Json :=
  .object [("line", .text check.line), ("expected", .text check.expected),
    ("actual", .text check.actual)]

def textsJson (texts : List String) : Json := .array (texts.map .text)

def toJson : Report → Json
  | .tape printed pointer =>
      .object [("output", .text (String.ofList (Text.Utf8.decodeLossy printed))),
        ("pointer", .integer pointer)]
  | .stack printed cells =>
      .object [("output", .text printed),
        ("stack", .array (cells.map fun cell => .integer cell.toInt))]
  | .demo showcase samples checks =>
      .object [("showcase", textsJson showcase), ("brainf", textsJson samples),
        ("forth", .array (checks.map checkJson))]
  | .description summary => summary.toJson
  | .encoded ids => .array (ids.map fun id => .integer id.toNat)
  | .decoded tokens => textsJson tokens

-- For tools. The document stands on one line, whose end is written after it.
def forTools (report : Report) : List (Writer × List UInt8) :=
  [(.serialiser, Text.Utf8.encode report.toJson.compact), lineWrite ""]

-- What is written, one write after another.
def writes (format : OutputFormat) (report : Report) : List (Writer × List UInt8) :=
  match format with
  | .human => report.forPeople
  | .json => report.forTools

def written (format : OutputFormat) (report : Report) : List UInt8 :=
  (report.writes format).flatMap (·.2)

end Report

end Switchboard
