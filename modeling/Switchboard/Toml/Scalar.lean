import Switchboard.Toml.Moment
import Switchboard.Toml.Quoted

namespace Switchboard.Toml

-- Reads what stands for one value or one part of a key. All faults point into the document, and
-- of several the first is reported.
namespace Scalar

abbrev Read := Except Fault

private def unquoted (text : List Char) (span : Span) : Fault :=
  let missing (mark : String) : Fault := .missing "missing opening quote" mark span.before
  let endsWith (mark : String) : Bool := mark.toList.isSuffixOf text
  match ["\x27\x27\x27", "\"\"\"", "\x27", "\""].find? endsWith with
  | some mark => missing mark
  | none => ⟨"string values must be quoted", some ["literal string"], span⟩

private def symbol (word problem : String) (value : Value) (text : List Char) (span : Span) :
    Read Datum :=
  if text = word.toList then .ok (.value value)
  else .error (.missing problem word span)

private def infinite : Float := 1.0 / 0.0

private def float (name : String) (negative : Bool) (value : Float) (text : List Char)
    (span : Span) : Read Datum :=
  symbol name "invalid float" (.real (if negative then -value else value)) text span

-- A real number has a point or an exponent somewhere.
private def looksReal (text : List Char) : Bool :=
  text.any fun c => c == '.' || c == 'e' || c == 'E'

-- The parts of a moment stand behind its first digits.
private def looksLikeMoment (text : List Char) : Bool :=
  match text.dropWhile Char.isDigit with
  | c :: _ => c == '-' || c == ':'
  | [] => false

private def moment (raw : List Char) (span : Span) : Read Datum :=
  match Moment.check raw with
  | .ok () => .ok (.moment (String.ofList raw))
  | .error flaw => .error ⟨flaw.message, none, span⟩

-- A number behind its sign. A word that only starts like one may be meant as text.
private def number (negative : Bool) (start : Nat) (raw text : List Char) (span : Span) :
    Read Datum :=
  if looksLikeMoment text then moment raw span
  else
    let rest := text.dropWhile Char.isDigit
    if looksReal rest then Number.real start raw text span
    else if rest.isEmpty ∨ rest.head? = some '_' then Number.integer negative start raw text span
    else .error (unquoted raw span)

private def radix? (c : Char) : Option Number.Radix :=
  match c.toLower with
  | 'b' => some .binary
  | 'o' => some .octal
  | 'x' => some .hexadecimal
  | _ => none

private def zeroFirst (negative signed : Bool) (start : Nat) (raw text : List Char)
    (span : Span) : Read Datum :=
  match text with
  | '0' :: c :: digits =>
      match radix? c with
      | some radix => Number.radixed radix c signed (start + 2) digits span
      | none =>
          if c = 'd' ∨ c = 'D' then
            .error ⟨"redundant integer number prefix", some [], ⟨start, start + 2⟩⟩
          else number negative start raw text span
  | _ => number negative start raw text span

private def behindSign (negative : Bool) (start : Nat) (raw text : List Char) (span : Span) :
    Read Datum :=
  match text with
  | [] => .error (unquoted raw span)
  | c :: _ =>
      if c = '+' ∨ c = '-' then
        .error ⟨"redundant numeric sign", some [], ⟨start, start + 1⟩⟩
      else if c.isDigit ∨ c = '_' then zeroFirst negative true start raw text span
      else if c = '.' then Number.real start raw text span
      else if c = 'i' ∨ c = 'I' then float "inf" negative infinite text ⟨start, span.stop⟩
      else if c = 'n' ∨ c = 'N' then float "nan" negative (0.0 / 0.0) text ⟨start, span.stop⟩
      else .error (unquoted raw span)

-- A value without quotes. Only a moment may have a blank inside.
def bare (text : List Char) (span : Span) : Read Datum :=
  let next := span.start + 1
  if text.contains ' ' ∧ looksLikeMoment text = false then .error (unquoted text span)
  else match text with
    | [] => .error (unquoted text span)
    | '+' :: rest => behindSign false next text rest span
    | '-' :: rest => behindSign true next text rest span
    | c :: _ =>
        if c.isDigit ∨ c = '_' then zeroFirst false false span.start text text span
        else if c = '.' then Number.real span.start text text span
        else if c = 't' ∨ c = 'T' then symbol "true" "invalid boolean" (.flag true) text span
        else if c = 'f' ∨ c = 'F' then symbol "false" "invalid boolean" (.flag false) text span
        else if c = 'i' ∨ c = 'I' then float "inf" false infinite text span
        else if c = 'n' ∨ c = 'N' then float "nan" false (0.0 / 0.0) text span
        else .error (unquoted text span)

private def isKeyChar (c : Char) : Bool := c.isAlphanum || c == '-' || c == '_'

private def keyChars : List String :=
  ["letters", "numbers", Fault.literal "-", Fault.literal "_"]

-- A part of a key without quotes.
def key (text : List Char) (span : Span) : Read String :=
  if text.isEmpty then .error ⟨"unquoted keys cannot be empty", some keyChars, span⟩
  else match text.findIdx? fun c => !isKeyChar c with
    | some index =>
        .error ⟨"invalid unquoted key", some keyChars, ⟨span.start + index, span.stop⟩⟩
    | none => .ok (String.ofList text)

end Scalar

end Switchboard.Toml
