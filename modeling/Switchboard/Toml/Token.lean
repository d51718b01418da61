namespace Switchboard.Toml

-- A stretch of a document, counted in characters. It may be empty.
structure Span where
  start : Nat
  stop : Nat
deriving DecidableEq, Repr

namespace Span

-- The empty stretch just before another one, and the one just behind it.
def before (span : Span) : Span := ⟨span.start, span.start⟩

def after (span : Span) : Span := ⟨span.stop, span.stop⟩

def through (first last : Span) : Span := ⟨first.start, last.stop⟩

end Span

-- How a text is quoted. The marks stand once, or three times around a text of several lines.
inductive Quoting where
  | literal
  | literalLines
  | basic
  | basicLines
deriving DecidableEq, Repr

inductive TokenKind where
  | dot
  | equals
  | comma
  | openBracket
  | closeBracket
  | openBrace
  | closeBrace
  | blank
  | comment
  | newline
  | quoted (quoting : Quoting)
  | word
  | finish
deriving DecidableEq, Repr

structure Token where
  kind : TokenKind
  span : Span
deriving DecidableEq, Repr

namespace Token

private def mark? (c : Char) : Option TokenKind :=
  match c with
  | '.' => some .dot
  | '=' => some .equals
  | ',' => some .comma
  | '[' => some .openBracket
  | ']' => some .closeBracket
  | '\x7b' => some .openBrace
  | '\x7d' => some .closeBrace
  | '\n' => some .newline
  | _ => none

private def isBlank (c : Char) : Bool := c == ' ' || c == '\t'

private def endsWord (c : Char) : Bool := (mark? c).isSome || isBlank c || c == '#' || c == '\r'

private def endsLine (c : Char) : Bool := c == '\n' || c == '\r'

-- How many characters a text of one line takes, up to its closing mark or the end of the line.
def untilMark (mark : Char) (escapes : Bool) : List Char → Nat
  | [] => 0
  | '\n' :: _ => 0
  | c :: d :: rest =>
      if c = mark then 1
      else if escapes ∧ c = '\\' ∧ (d = '\\' ∨ d = mark) then 2 + untilMark mark escapes rest
      else 1 + untilMark mark escapes (d :: rest)
  | [_] => 1

-- Up to two marks before the three closing ones belong to the text.
private def closingMarks (mark : Char) (rest : List Char) : Nat :=
  3 + min 2 (rest.takeWhile (· == mark)).length

private def untilMarks (mark : Char) (escapes : Bool) : List Char → Nat
  | [] => 0
  | c :: d :: e :: rest =>
      if c = mark ∧ d = mark ∧ e = mark then closingMarks mark rest
      else if escapes ∧ c = '\\' ∧ (d = '\\' ∨ d = mark) then
        2 + untilMarks mark escapes (e :: rest)
      else 1 + untilMarks mark escapes (d :: e :: rest)
  | rest => rest.length

def quotedToken (mark : Char) (single lines : Quoting) (escapes : Bool)
    (rest : List Char) : TokenKind × Nat :=
  match rest with
  | a :: b :: more =>
      if a = mark ∧ b = mark then (.quoted lines, 3 + untilMarks mark escapes more)
      else (.quoted single, 1 + untilMark mark escapes rest)
  | _ => (.quoted single, 1 + untilMark mark escapes rest)

-- The kind and the length of the token that starts with a character.
def next (c : Char) (rest : List Char) : TokenKind × Nat :=
  match mark? c with
  | some kind => (kind, 1)
  | none =>
      if isBlank c then (.blank, 1 + (rest.takeWhile isBlank).length)
      else if c = '#' then (.comment, 1 + (rest.takeWhile fun d => !endsLine d).length)
      else if c = '\r' then (.newline, if rest.head? = some '\n' then 2 else 1)
      else if c = '\x27' then quotedToken '\x27' .literal .literalLines false rest
      else if c = '"' then quotedToken '"' .basic .basicLines true rest
      else (.word, 1 + (rest.takeWhile fun d => !endsWord d).length)

-- The tokens of a document follow each other without gaps, and the last one is empty. The
-- characters to skip are those that are left of the token in front.
def scan : (skip place : Nat) → List Char → List Token
  | _, place, [] => [⟨.finish, ⟨place, place⟩⟩]
  | skip + 1, place, _ :: rest => scan skip place rest
  | 0, place, c :: rest =>
      let (kind, length) := next c rest
      ⟨kind, ⟨place, place + length⟩⟩ :: scan (length - 1) (place + length) rest

-- A mark of the byte order at the very front belongs to no token.
def ofText (text : List Char) : List Token :=
  match text with
  | [] => scan 0 0 []
  | c :: rest => if c = '\uFEFF' then scan 0 1 rest else scan 0 0 (c :: rest)

-- The token says nothing by itself.
def isGap (token : Token) : Bool :=
  token.kind == .blank || token.kind == .newline || token.kind == .comment

-- The characters of a token.
def inside (text : Array Char) (token : Token) : List Char :=
  (text.extract token.span.start token.span.stop).toList

end Token

end Switchboard.Toml
