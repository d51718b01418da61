import Switchboard.Toml.Fault

namespace Switchboard.Toml

-- One part of a dotted key, which may be quoted.
structure KeyPart where
  span : Span
  quoting : Option Quoting
deriving DecidableEq, Repr

-- A part that is missing has no characters.
def KeyPart.isMissing (part : KeyPart) : Bool := part.span.start == part.span.stop

-- A value as it is written, before it is known what it stands for.
inductive Node where
  | scalar (span : Span) (quoting : Option Quoting)
  | array (items : List Node)
  | inline (entries : List (List KeyPart × Node))

-- A document is a list of assignments, under headers of tables.
inductive Statement where
  | assignment (key : List KeyPart) (value : Node)
  | header (key : List KeyPart)
  | rowHeader (key : List KeyPart)

namespace Statement

-- The text that tokens are taken from, and the last of them that says something.
structure Source where
  text : Array Char
  last : Span

abbrev Read := Except Fault

private def finishSpan : Span := ⟨0, 0⟩

-- Where the next token starts.
private def here (tokens : List Token) : Span :=
  match tokens with
  | token :: _ => token.span.before
  | [] => finishSpan

-- A lone carriage return is no line break, and a comment holds no control characters.
private def checkGap (source : Source) (token : Token) : Read Unit :=
  let inside := token.inside source.text
  match token.kind with
  | .newline =>
      if inside = ['\r'] then
        .error ⟨"carriage return must be followed by newline", some ["newline"], token.span.after⟩
      else .ok ()
  | .comment =>
      match inside.findIdx? fun c => c.toNat < 0x20 && c ≠ '\t' || c.toNat = 0x7F with
      | some index =>
          let place := token.span.start + index
          .error ⟨"invalid comment character", some ["printable characters"], ⟨place, place + 1⟩⟩
      | none => .ok ()
  | _ => .ok ()

private def skipBlank (tokens : List Token) : List Token := tokens.dropWhile (·.kind == .blank)

private def skipGaps (source : Source) : List Token → Read (List Token)
  | [] => .ok []
  | token :: rest =>
      if token.isGap then do
        checkGap source token
        skipGaps source rest
      else .ok (token :: rest)

-- What is left of a line says nothing.
private def skipLine (source : Source) : List Token → Read (List Token)
  | [] => .ok []
  | token :: rest => do
      checkGap source token
      if token.kind = .newline then return rest else skipLine source rest

private def part? (token : Token) : Option KeyPart :=
  match token.kind with
  | .word => some ⟨token.span, none⟩
  | .quoted quoting => some ⟨token.span, some quoting⟩
  | _ => none

private def firstPart (tokens : List Token) : KeyPart × List Token :=
  match tokens with
  | token :: rest =>
      match part? token with
      | some part => (part, rest)
      | none => (⟨token.span.before, none⟩, tokens)
  | [] => (⟨finishSpan, none⟩, [])

private def moreParts : (fuel : Nat) → List Token → List KeyPart × List Token
  | 0, tokens => ([], tokens)
  | fuel + 1, tokens =>
      match skipBlank tokens with
      | ⟨.dot, _⟩ :: rest =>
          let (part, rest) := firstPart (skipBlank rest)
          let (parts, rest) := moreParts fuel rest
          (part :: parts, rest)
      | _ => ([], tokens)

private def keyParts (tokens : List Token) : List KeyPart × List Token :=
  let (part, rest) := firstPart tokens
  let (parts, rest) := moreParts tokens.length rest
  (part :: parts, rest)

-- Words, dots and the blanks between them make up one value without quotes.
private def wordEnd : List Token → Option (Span × List Token)
  | ⟨.blank, _⟩ :: token :: rest =>
      if token.kind = .word ∨ token.kind = .dot then some (token.span, rest) else none
  | token :: rest =>
      if token.kind = .word ∨ token.kind = .dot then some (token.span, rest) else none
  | [] => none

private def words : (fuel : Nat) → Span → List Token → Span × List Token
  | 0, span, tokens => (span, tokens)
  | fuel + 1, span, tokens =>
      match wordEnd tokens with
      | some (last, rest) => words fuel (span.through last) rest
      | none => (span, tokens)

-- What an inline table goes on with.
private inductive Wanted where
  | key
  | equals (key : List KeyPart)
  | value (key : List KeyPart)
  | comma

private def Wanted.names : Wanted → List String
  | .key => ["key"]
  | .equals _ => [Fault.literal "="]
  | .value _ => ["value"]
  | .comma => [Fault.literal ","]

private def Wanted.missing : Wanted → String
  | .key => "missing key for inline table element"
  | .equals _ => "missing assignment between key-value pairs"
  | .value _ => "missing value between key-value pairs"
  | .comma => "missing comma between key-value pairs"

private def Wanted.fault (wanted : Wanted) (problem : String) (token : Token) : Fault :=
  ⟨problem, some wanted.names, token.span.before⟩

-- A value that ends before it starts reads as a literal text without quotes.
private def withoutValue (key : List KeyPart) (token : Token) : List KeyPart × Node :=
  (key, .scalar token.span.before (some .literal))

-- How many brackets may be open at once.
def depthLimit : Nat := 80

private def checkDepth (opened : Nat) (token : Token) : Read Unit :=
  if opened < depthLimit then .ok ()
  else .error ⟨"cannot recurse further; max recursion depth met", none, token.span⟩

mutual

private def value (source : Source) : (fuel opened : Nat) → List Token → Read (Node × List Token)
  | 0, _, tokens => .ok (.scalar (here tokens) none, tokens)
  | _ + 1, _, [] => .ok (.scalar finishSpan none, [])
  | fuel + 1, opened, token :: rest =>
      match token.kind with
      | .comment | .comma | .newline | .finish =>
          .ok (.scalar token.span.before none, token :: rest)
      | .blank => value source fuel opened rest
      | .equals => .error ⟨"extra `=`", some [], token.span⟩
      | .openBrace => do
          checkDepth opened token
          inline source fuel (opened + 1) .key [] rest
      | .closeBrace =>
          .error (.missing "missing inline table opening" "\x7b" token.span.before)
      | .openBracket => do
          checkDepth opened token
          array source fuel (opened + 1) false [] rest
      | .closeBracket => .error (.missing "missing array opening" "[" token.span.before)
      | .quoted quoting => .ok (.scalar token.span (some quoting), rest)
      | .dot | .word =>
          let (span, rest) := words rest.length token.span rest
          .ok (.scalar span none, rest)

-- The items so far stand in reverse. After an item comes a comma or the end.
private def array (source : Source) : (fuel opened : Nat) → (filled : Bool) → List Node →
    List Token → Read (Node × List Token)
  | 0, _, _, _, _ => .error (.missing "unclosed array" "]" source.last.after)
  | _ + 1, _, _, _, [] => .error (.missing "unclosed array" "]" source.last.after)
  | fuel + 1, opened, filled, items, token :: rest =>
      match token.kind with
      | .finish => .error (.missing "unclosed array" "]" source.last.after)
      | .blank | .comment | .newline => do
          checkGap source token
          array source fuel opened filled items rest
      | .closeBracket => .ok (.array items.reverse, rest)
      | .comma =>
          if filled then array source fuel opened false items rest
          else .error ⟨"extra comma in array", some ["value"], token.span.before⟩
      | .equals =>
          .error ⟨"unexpected `=` in array", some ["value", Fault.literal "]"], token.span.before⟩
      | _ =>
          if filled then
            .error (.missing "missing comma between array elements" "," token.span.before)
          else
            match value source fuel opened (token :: rest) with
            | .error fault => .error fault
            | .ok (item, rest) => array source fuel opened true (item :: items) rest

-- The entries so far stand in reverse.
private def inline (source : Source) : (fuel opened : Nat) → Wanted →
    List (List KeyPart × Node) → List Token → Read (Node × List Token)
  | 0, _, _, _, _ => .error (.missing "unclosed inline table" "\x7d" source.last.after)
  | _ + 1, _, _, _, [] => .error (.missing "unclosed inline table" "\x7d" source.last.after)
  | fuel + 1, opened, wanted, entries, token :: rest =>
      match token.kind, wanted with
      | .finish, _ => .error (.missing "unclosed inline table" "\x7d" source.last.after)
      | .blank, _ | .comment, _ | .newline, _ => do
          checkGap source token
          inline source fuel opened wanted entries rest
      | .closeBrace, .equals key | .closeBrace, .value key =>
          .ok (.inline (withoutValue key token :: entries).reverse, rest)
      | .closeBrace, _ => .ok (.inline entries.reverse, rest)
      | .comma, .comma => inline source fuel opened .key entries rest
      | .comma, _ => .error (wanted.fault "extra comma in inline table" token)
      | .equals, .key =>
          inline source fuel opened (.value [⟨token.span.before, none⟩]) entries rest
      | .equals, .equals key => inline source fuel opened (.value key) entries rest
      | .equals, _ => .error (wanted.fault "extra assignment between key-value pairs" token)
      | .closeBracket, _ => .error (wanted.fault "invalid inline table element" token)
      | _, .value key =>
          match value source fuel opened (token :: rest) with
          | .error fault => .error fault
          | .ok (item, rest) => inline source fuel opened .comma ((key, item) :: entries) rest
      | .openBrace, _ | .openBracket, _ => .error (wanted.fault wanted.missing token)
      | _, .key =>
          let (key, rest) := keyParts (token :: rest)
          inline source fuel opened (.equals key) entries rest
      | _, _ => .error (wanted.fault wanted.missing token)

end

-- After a statement there is nothing else on its line but a comment.
private def lineEnd (source : Source) : List Token → Read (List Token)
  | [] => .ok []
  | token :: rest => do
      checkGap source token
      if token.kind = .newline ∨ token.kind = .finish then return rest
      else if token.isGap then lineEnd source rest
      else throw ⟨"unexpected key or value", some ["newline", Fault.literal "#"],
        token.span.before⟩

private def readAssignment (source : Source) (missing : String) (tokens : List Token) :
    Read (Statement × List Token) := do
  let (key, rest) := keyParts tokens
  match skipBlank rest with
  | ⟨.equals, _⟩ :: rest =>
      let (item, rest) ← value source (rest.length + 1) 0 rest
      return (.assignment key item, ← lineEnd source rest)
  | rest => throw (.missing missing "=" (here rest))

-- A header that lacks its end is only reported if its key is complete. The other fault is in the
-- key then.
private def readHeader (source : Source) (tokens : List Token) : Read (Statement × List Token) := do
  let (rows, tokens) := match tokens with
    | ⟨.openBracket, _⟩ :: rest => (true, rest)
    | _ => (false, tokens)
  let (key, rest) := keyParts (skipBlank tokens)
  let statement : Statement := if rows then .rowHeader key else .header key
  match rows, skipBlank rest with
  | false, ⟨.closeBracket, _⟩ :: rest => return (statement, ← lineEnd source rest)
  | true, ⟨.closeBracket, _⟩ :: ⟨.closeBracket, _⟩ :: rest =>
      return (statement, ← lineEnd source rest)
  | true, ⟨.closeBracket, span⟩ :: _ => throw (.missing "unclosed array table" "]" span.after)
  | _, rest =>
      match key.getLast? with
      | none => return (statement, ← skipLine source rest)
      | some last =>
          if last.isMissing then return (statement, ← skipLine source rest)
          else if rows then throw (.missing "unclosed array table" "]]" last.span.after)
          else throw (.missing "unclosed table" "]" last.span.after)

private def statements (source : Source) : (fuel : Nat) → List Token → Read (List Statement)
  | 0, _ => .ok []
  | fuel + 1, tokens => do
      match ← skipGaps source tokens with
      | [] => return []
      | token :: rest =>
          let followed (result : Read (Statement × List Token)) : Read (List Statement) := do
            let (statement, rest) ← result
            return statement :: (← statements source fuel rest)
          match token.kind with
          | .finish => return []
          | .openBracket => followed (readHeader source rest)
          | .closeBracket => throw (.missing "missing table open" "[" token.span.before)
          | .comma | .openBrace | .closeBrace =>
              throw ⟨"invalid key-value pair", some ["key"], token.span.before⟩
          | .dot => followed (readAssignment source "missing value for key" (token :: rest))
          | _ => followed (readAssignment source "key with no value" (token :: rest))

private def lastOf (tokens : List Token) : Span :=
  match (tokens.filter fun token => !token.isGap && token.kind != .finish).getLast? with
  | some token => token.span
  | none => finishSpan

-- The statements of a document. A fault in how it is put together outweighs the faults in its
-- values.
def read (text : Array Char) (tokens : List Token) : Except Fault (List Statement) :=
  statements ⟨text, lastOf tokens⟩ (tokens.length + 1) tokens

end Statement

end Switchboard.Toml
