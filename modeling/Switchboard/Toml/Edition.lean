import Switchboard.Toml.Fault

namespace Switchboard.Toml

-- What a sound document may not use if it is also to be read by the rules of the older edition:
-- line breaks, comments and last commas between braces, two escapes, times without seconds, and
-- values as deep as the limit.
namespace Edition

-- How many brackets may be open at once, or how many parts a key may have, is less than this.
def limit : Nat := 80

private def expected (names : List String) : String :=
  "expected " ++ ", ".intercalate (names.map Fault.literal)

private def fault (problem : String) (place : Nat) : Fault := ⟨problem, none, ⟨place, place + 1⟩⟩

private def tooDeep : String := "recursion limit exceeded"

private def unclosed : String := "invalid inline table\n" ++ expected ["\x7d"]

private def noEquals : String := expected [".", "="]

private def noValue : String := "invalid string\n" ++ expected ["\"", "\x27"]

private def noEscape : String :=
  "invalid escape sequence\n" ++ expected ["b", "f", "n", "r", "t", "u", "U", "\\", "\""]

-- Where an inline table is being read.
inductive Spot where
  | opened
  | behindComma (span : Span)
  | key
  | behindEquals
  | behindValue

inductive Bracket where
  | array
  | table (spot : Spot)

-- What stands in front of a word in the same value. A date may precede a time, and behind a time
-- come only parts of a second and an offset, whose colon is none between hour and minute.
inductive Ahead where
  | nothing
  | date
  | time

-- A line starts with the parts of a key or of a header.
structure State where
  opened : List Bracket
  inKey : Bool
  inHeader : Bool
  keyStart : Option Nat
  dots : Nat
  ahead : Ahead

def State.line : State := ⟨[], true, false, none, 0, .nothing⟩

-- A gap that goes over lines ends an inline table of the older edition.
private def gapFault (spot : Spot) (span : Span) : Fault :=
  match spot with
  | .opened => fault unclosed span.start
  | .behindComma comma => fault unclosed comma.start
  | .key => fault noEquals span.start
  | .behindEquals => fault noValue span.start
  | .behindValue => fault unclosed span.start

def escapeFault? : (place : Nat) → List Char → Option Fault
  | place, '\\' :: c :: rest =>
      if c = 'e' ∨ c = 'x' then some (fault noEscape (place + 2)) else escapeFault? (place + 2) rest
  | place, _ :: rest => escapeFault? (place + 1) rest
  | _, [] => none

-- The first colon of a time stands behind the hour, the second three places further.
def timeFault? (start : Nat) (word : List Char) : Ahead → Option Fault
  | .time => none
  | ahead =>
    let front := word.takeWhile (· != ':')
    let place := front.length + 3
    if !word.contains ':' || word[place]? = some ':' then none
    else
      let behindDate := ahead matches .date
      let part := if behindDate || 2 < front.length then "invalid date-time" else "invalid time"
      some (fault part (start + place))

private def Ahead.extend (ahead : Ahead) (word : List Char) : Ahead :=
  match ahead with
  | .time => .time
  | _ => if word.contains ':' then .time else .date

private def keyFault? (state : State) : Option Fault :=
  if state.dots + 1 < limit then none
  else state.keyStart.map fun place =>
    fault (if state.inHeader then "invalid table header\n" ++ tooDeep else tooDeep) place

private def State.spotIs (state : State) (spot : Spot) : State :=
  match state.opened with
  | .table _ :: rest => { state with opened := .table spot :: rest }
  | _ => state

-- What is between the brackets counts as a value for what is around them.
private def State.close (state : State) : State :=
  { state with opened := state.opened.drop 1 }.spotIs .behindValue

private def State.enter (state : State) (bracket : Bracket) (token : Token) :
    Except Fault State :=
  if state.opened.length + 1 < limit then .ok { state with opened := bracket :: state.opened }
  else .error (fault tooDeep token.span.stop)

private def State.word (state : State) (token : Token) : State :=
  match state.opened with
  | [] =>
      if state.inKey then { state with keyStart := state.keyStart.orElse fun _ => token.span.start }
      else state
  | .array :: _ => state
  | .table .behindEquals :: _ => state.spotIs .behindValue
  | .table .behindValue :: _ => state
  | .table _ :: _ => state.spotIs .key

private def orElseFail (found : Option Fault) (state : State) : Except Fault State :=
  match found with
  | some fault => .error fault
  | none => .ok state

-- A gap keeps what stands ahead only if it stays within the line.
def step (text : Array Char) (token : Token) (state : State) : Except Fault State :=
  let afterWord := { state with ahead := .nothing }
  match token.kind, state.opened with
  | .blank, _ => .ok state
  | .newline, [] => .ok .line
  | .comment, [] => .ok state
  | .newline, .array :: _ => .ok afterWord
  | .comment, .array :: _ => .ok afterWord
  | .newline, .table spot :: _ => .error (gapFault spot token.span)
  | .comment, .table spot :: _ => .error (gapFault spot token.span)
  | .dot, [] =>
      .ok { state.word token with dots := if state.inKey then state.dots + 1 else state.dots }
  | .dot, _ => .ok (state.word token)
  | .equals, [] => orElseFail (keyFault? state) { afterWord with inKey := false }
  | .equals, _ => .ok (afterWord.spotIs .behindEquals)
  | .comma, _ => .ok (afterWord.spotIs (.behindComma token.span))
  | .openBracket, _ =>
      if state.inKey then
        .ok { state with inHeader := true, keyStart := some token.span.stop }
      else state.enter .array token
  | .closeBracket, _ => if state.inKey then orElseFail (keyFault? state) state else .ok state.close
  | .openBrace, _ => state.enter (.table .opened) token
  | .closeBrace, .table (.behindComma comma) :: _ => .error (fault unclosed comma.start)
  | .closeBrace, _ => .ok state.close
  | .quoted quoting, _ =>
      let escapes := quoting == .basic || quoting == .basicLines
      let found := if escapes then escapeFault? token.span.start (token.inside text) else none
      orElseFail found (state.word token)
  | .word, _ =>
      let word := token.inside text
      orElseFail (timeFault? token.span.start word state.ahead)
        { state.word token with ahead := state.ahead.extend word }
  | .finish, _ => .ok state

-- The first fault that the older edition finds in a document without faults.
def fault? (document : String) : Option Fault :=
  let text := document.toList.toArray
  match (Token.ofText document.toList).foldlM (fun state token => step text token state) .line with
  | .ok _ => none
  | .error fault => some fault

end Edition

end Switchboard.Toml
