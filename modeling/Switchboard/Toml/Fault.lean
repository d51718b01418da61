import Switchboard.Text.Layout
import Switchboard.Toml.Token

namespace Switchboard.Toml

-- What is wrong with a document, and where. It may be known what should stand there, which may
-- be nothing.
structure Fault where
  problem : String
  expected : Option (List String)
  span : Span
deriving DecidableEq, Repr

namespace Fault

def message (fault : Fault) : String :=
  match fault.expected with
  | none => fault.problem
  | some [] => fault.problem ++ ", expected nothing"
  | some expected => fault.problem ++ ", expected " ++ ", ".intercalate expected

def literal (text : String) : String := "`" ++ text ++ "`"

-- The fault that one mark is missing.
def missing (problem mark : String) (span : Span) : Fault :=
  ⟨problem, some [literal mark], span⟩

open Text (spaces byteCount)

-- The line of a place and the characters in front of it. The end of a document counts to the
-- line of its last character.
private def lineAt (text : List Char) (place : Nat) : Nat × List Char :=
  let inside := text.take (min place (text.length - 1))
  let back := inside.reverse.takeWhile (· != '\n')
  ((inside.filter (· == '\n')).length, back.reverse)

-- A place at a character that takes several bytes is counted in bytes.
private def column (text : List Char) (place : Nat) (front : List Char) : Nat :=
  match text[place]? with
  | some c => if 0x7F < c.toNat then byteCount front else front.length
  | none => front.length + (place - (text.length - 1))

private def lines : List Char → List (List Char)
  | [] => [[]]
  | c :: rest =>
      if c = '\n' then [] :: lines rest
      else match lines rest with
        | [] => [[c]]
        | line :: more => (c :: line) :: more

-- The fault with the line it is in, and marks under the place.
def report (document : String) (fault : Fault) : String :=
  let text := document.toList
  let (line, front) := lineAt text fault.span.start
  let column := column text fault.span.start front
  let content := (lines text).getD line []
  let width := byteCount ((text.drop fault.span.start).take (fault.span.stop - fault.span.start))
  let width := max 1 (min width (byteCount content - column))
  let number := toString (line + 1)
  let margin := spaces (number.length + 1) ++ "|"
  "TOML parse error at line " ++ number ++ ", column " ++ toString (column + 1) ++ "\n" ++
    margin ++ "\n" ++
    number ++ " | " ++ String.ofList content ++ "\n" ++
    margin ++ spaces (column + 1) ++ String.ofList (List.replicate width '^') ++ "\n" ++
    fault.message ++ "\n"

end Fault

end Switchboard.Toml
