import Switchboard.Numeral
import Switchboard.Text.Blank
import Switchboard.Text.Letters

namespace Switchboard.Log

-- Why field values cannot be matched with a pattern.
inductive PatternFault where
  | malformed
  | wordBoundary
deriving DecidableEq, Repr

namespace PatternFault

def message : PatternFault → String
  | .malformed => "error building NFA"
  | .wordBoundary =>
      "unsupported regex feature for DFAs: cannot build DFAs for regexes with Unicode word " ++
        "boundaries; switch to ASCII word boundaries, or heuristically enable Unicode word " ++
        "boundaries or use a different regex engine"

end PatternFault

-- The patterns that the values of fields are matched with. Only their form is of interest here:
-- the readers answer with what follows the part they read, or with nothing if it is malformed.
-- The classes of Unicode and the pairs of its letters are unknown to patterns.
namespace Pattern

-- How the characters of a pattern are meant.
structure Mode where
  ignoresCase : Bool
  unicode : Bool
  spacious : Bool
deriving DecidableEq, Repr

-- In a spacious pattern blanks say nothing, nor does what follows a hash sign on its line.
private def skipSpace : (inComment : Bool) → List Char → List Char
  | _, [] => []
  | true, c :: rest => skipSpace (c != '\n') rest
  | false, c :: rest =>
      if Text.isBlank c then skipSpace false rest
      else if c = '#' then skipSpace true rest
      else c :: rest

private def Mode.skip (mode : Mode) (text : List Char) : List Char :=
  if mode.spacious then skipSpace false text else text

-- A character may be written as the number of a byte.
private inductive Primitive where
  | char (c : Char) (asByte : Bool)
  | digits (negated : Bool)
  | place
  | boundary
deriving DecidableEq

private def codePoint? (mode : Mode) : (count value : Nat) → List Char →
    Option (Char × List Char)
  | 0, value, rest => if h : value.isValidChar then some (Char.ofNatAux value h, rest) else none
  | _ + 1, _, [] => none
  | count + 1, value, c :: rest => do
      codePoint? mode count (value * 16 + (← Numeral.hexDigit? c)) (mode.skip rest)

private def mayBeEscaped (c : Char) : Bool :=
  c.toNat < 0x80 && !c.isAlphanum && c != '<' && c != '>'

private def control? (c : Char) : Option Char :=
  match c with
  | 'a' => some '\x07'
  | 'f' => some '\x0c'
  | 't' => some '\t'
  | 'n' => some '\n'
  | 'r' => some '\r'
  | 'v' => some '\x0b'
  | _ => none

private def escaped (mode : Mode) : List Char → Option (Primitive × List Char)
  | [] => none
  | c :: rest => do
      let ofCode (count : Nat) (asByte : Bool) : Option (Primitive × List Char) := do
        let (c, rest) ← codePoint? mode count 0 (mode.skip rest)
        return (.char c asByte, rest)
      if c = 'x' then ofCode 2 true
      else if c = 'u' then ofCode 4 false
      else if c = 'U' then ofCode 8 false
      else if ['d', 's', 'w'].contains c then return (.digits false, rest)
      else if ['D', 'S', 'W'].contains c then return (.digits true, rest)
      else if ['A', 'z'].contains c then return (.place, rest)
      else if ['b', 'B', '<', '>'].contains c then
        if c = 'b' ∧ rest.head? = some '\x7b' then none else return (.boundary, rest)
      else if mayBeEscaped c then return (.char c false, rest)
      else return (.char (← control? c) false, rest)

-- A class of characters that has a name of its own is known only without Unicode, where what is
-- matched must still be text.
private def Mode.allowsNamed (mode : Mode) (negated : Bool) : Bool := !mode.unicode && !negated

private def Mode.allowsClass (mode : Mode) (negated : Bool) : Bool :=
  if mode.unicode then !mode.ignoresCase else !negated

private def Mode.allowsInClass (mode : Mode) (c : Char) : Bool := mode.unicode || c.toNat < 0x80

private def Mode.allows (mode : Mode) (c : Char) (asByte : Bool) : Bool :=
  if mode.unicode then !mode.ignoresCase else !asByte || c.toNat < 0x80

private def classNames : List String :=
  ["alnum", "alpha", "ascii", "blank", "cntrl", "digit", "graph", "lower", "print", "punct",
    "space", "upper", "word", "xdigit"]

-- What follows the bracket of a class within a class, if it starts the name of a known class.
private def namedClass? (text : List Char) : Option (Bool × List Char) := do
  let ':' :: rest := text | none
  let (negated, rest) := match rest with
    | '^' :: rest => (true, rest)
    | rest => (false, rest)
  match rest.dropWhile (· != ':') with
  | ':' :: ']' :: after =>
      if classNames.contains (String.ofList (rest.takeWhile (· != ':'))) then
        some (negated, after)
      else none
  | _ => none

private def skipDashes (mode : Mode) : (fuel : Nat) → List Char → List Char
  | 0, text => text
  | fuel + 1, text =>
      match mode.skip text with
      | '-' :: rest => skipDashes mode fuel rest
      | text => text

-- A bracket, dashes and a closing bracket at the front of a class are characters in it.
private def classFront (mode : Mode) (text : List Char) : Option (List Char) :=
  let text := mode.skip text
  let (negated, text) := match text with
    | '^' :: rest => (true, mode.skip rest)
    | text => (false, text)
  if !mode.allowsClass negated then none
  else match text with
    | '-' :: rest => some (skipDashes mode (rest.length + 1) rest)
    | ']' :: rest => some (mode.skip rest)
    | text => some text

private def classItem (mode : Mode) : List Char → Option (Primitive × List Char)
  | [] => none
  | '\\' :: rest => escaped mode rest
  | c :: rest => some (.char c false, rest)

private def isItem (mode : Mode) : Primitive → Bool
  | .char c asByte => mode.allows c asByte && mode.allowsInClass c
  | .digits negated => mode.allowsNamed negated
  | .place => false
  | .boundary => false

private def isRange (mode : Mode) : Primitive → Primitive → Bool
  | .char low lowByte, .char high highByte =>
      isItem mode (.char low lowByte) && isItem mode (.char high highByte) && decide (low ≤ high)
  | _, _ => false

-- A character or a range. A dash that is followed by another one, or by the end of the class,
-- makes no range.
private def classRange (mode : Mode) (text : List Char) : Option (List Char) := do
  let (first, rest) ← classItem mode text
  let single := if isItem mode first then some rest else none
  match mode.skip rest with
  | '-' :: after =>
      match mode.skip after with
      | ']' :: _ => single
      | '-' :: _ => single
      | after =>
          let (last, rest) ← classItem mode after
          if isRange mode first last then some rest else none
  | _ => single

-- What follows a class, of which some brackets are open.
private def classRest (mode : Mode) : (fuel opened : Nat) → List Char → Option (List Char)
  | 0, _, _ => none
  | fuel + 1, opened, text =>
      match mode.skip text with
      | [] => none
      | '[' :: rest =>
          match namedClass? rest with
          | some (negated, rest) =>
              if negated && !mode.unicode then none else classRest mode fuel opened rest
          | none => do classRest mode fuel (opened + 1) (← classFront mode rest)
      | ']' :: rest => if opened ≤ 1 then some rest else classRest mode fuel (opened - 1) rest
      | '&' :: '&' :: rest => classRest mode fuel opened rest
      | '-' :: '-' :: rest => classRest mode fuel opened rest
      | '~' :: '~' :: rest => classRest mode fuel opened rest
      | text => do classRest mode fuel opened (← classRange mode text)

private def characterClass (mode : Mode) (text : List Char) : Option (List Char) := do
  classRest mode (text.length + 1) 1 (← classFront mode text)

private def flagLetters : List Char := ['-', 'i', 'm', 's', 'U', 'u', 'R', 'x']

-- Letters that change the mode, those behind a dash switching it off, and the mark behind them.
private def flags : (given : List Char) → List Char → Option (List Char × Char × List Char)
  | _, [] => none
  | given, c :: rest =>
      if c = ':' ∨ c = ')' then
        if given.getLast? = some '-' then none else some (given, c, rest)
      else if flagLetters.contains c && !given.contains c then flags (given ++ [c]) rest
      else none

private def Mode.with (mode : Mode) (given : List Char) : Mode :=
  let on := given.takeWhile (· != '-')
  let off := given.dropWhile (· != '-')
  let switch (c : Char) (now : Bool) : Bool := (now || on.contains c) && !off.contains c
  ⟨switch 'i' mode.ignoresCase, switch 'u' mode.unicode, switch 'x' mode.spacious⟩

private def isGroupName (name : List Char) : Bool :=
  match name with
  | [] => false
  | c :: rest =>
      (c == '_' || Text.isLetter c) &&
        rest.all fun c => ['_', '.', '[', ']'].contains c || Text.isLetterOrNumber c

-- How far a pattern has been read: the mode, the modes around the open groups, whether there is
-- something to repeat, the names of groups, and whether words are told from their surroundings.
structure Progress where
  mode : Mode
  outer : List Mode
  repeatable : Bool
  names : List (List Char)
  findsWords : Bool

private def Progress.enter (progress : Progress) (mode : Mode) : Progress :=
  { progress with mode, outer := progress.mode :: progress.outer, repeatable := false }

private def namedGroup (progress : Progress) (text : List Char) :
    Option (Progress × List Char) :=
  let name := text.takeWhile (· != '>')
  match text.dropWhile (· != '>') with
  | [] => none
  | _ :: rest =>
      if isGroupName name && !progress.names.contains name then
        some ({ progress.enter progress.mode with names := name :: progress.names }, rest)
      else none

-- What an opening parenthesis starts. Nothing can look around.
private def group (progress : Progress) (text : List Char) : Option (Progress × List Char) :=
  match progress.mode.skip text with
  | '?' :: '=' :: _ => none
  | '?' :: '!' :: _ => none
  | '?' :: '<' :: '=' :: _ => none
  | '?' :: '<' :: '!' :: _ => none
  | '?' :: 'P' :: '<' :: rest => namedGroup progress rest
  | '?' :: '<' :: rest => namedGroup progress rest
  | '?' :: rest => do
      let (given, mark, rest) ← flags [] rest
      let mode := progress.mode.with given
      if mark = ':' then return (progress.enter mode, rest)
      else if given.isEmpty then none
      else return ({ progress with mode, repeatable := false }, rest)
  | text => some (progress.enter progress.mode, text)

private def Progress.primitive (progress : Progress) (primitive : Primitive) : Option Progress :=
  let mode := progress.mode
  let progress := { progress with repeatable := true }
  match primitive with
  | .char c asByte => if mode.allows c asByte then some progress else none
  | .digits negated => if mode.allowsNamed negated then some progress else none
  | .place => some progress
  | .boundary => some { progress with findsWords := progress.findsWords || mode.unicode }

private def step (progress : Progress) (c : Char) (rest : List Char) :
    Option (Progress × List Char) :=
  match c with
  | '(' => group progress rest
  | ')' =>
      match progress.outer with
      | [] => none
      | mode :: outer => some ({ progress with mode, outer, repeatable := true }, rest)
  | '|' => some ({ progress with repeatable := false }, rest)
  | '[' => do return ({ progress with repeatable := true }, ← characterClass progress.mode rest)
  -- A closing brace ends the field, so no count of repetitions can be closed.
  | '\x7b' => none
  | '\\' => do
      let (primitive, rest) ← escaped progress.mode rest
      return (← progress.primitive primitive, rest)
  | '.' => if progress.mode.unicode then some ({ progress with repeatable := true }, rest) else none
  | _ =>
      if c = '*' ∨ c = '+' ∨ c = '?' then
        if !progress.repeatable then none
        else if rest.head? = some '?' then some (progress, rest.drop 1)
        else some (progress, rest)
      else do
        let primitive := if c = '^' ∨ c = '$' then .place else .char c false
        return (← progress.primitive primitive, rest)

private def read : (fuel : Nat) → Progress → List Char → Option Progress
  | 0, _, _ => none
  | fuel + 1, progress, text =>
      match progress.mode.skip text with
      | [] => if progress.outer.isEmpty then some progress else none
      | c :: rest => do
          let (progress, rest) ← step progress c rest
          read fuel progress rest

def fault? (text : String) : Option PatternFault :=
  match read (text.length + 1) ⟨⟨false, true, false⟩, [], false, [], false⟩ text.toList with
  | none => some .malformed
  | some progress => if progress.findsWords then some .wordBoundary else none

end Pattern

end Switchboard.Log
