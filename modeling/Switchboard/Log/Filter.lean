import Switchboard.Choice
import Switchboard.Decimal.Real
import Switchboard.Journal
import Switchboard.Log.Pattern
import Switchboard.Numeral
import Switchboard.Text.Blank
import Switchboard.Text.Letters

namespace Switchboard.Log

-- How grave an event must be. Without a level nothing is let through.
abbrev Threshold := Option Level

namespace Threshold

private def ofNumber? : Int → Option Threshold
  | 0 => some none
  | 1 => some (some .error)
  | 2 => some (some .warn)
  | 3 => some (some .info)
  | 4 => some (some .debug)
  | 5 => some (some .trace)
  | _ => none

private def names : List (String × Threshold) := [
  ("", some .error),
  ("error", some .error),
  ("warn", some .warn),
  ("info", some .info),
  ("debug", some .debug),
  ("trace", some .trace),
  ("off", none)]

-- A name in either case, or a number.
def read? (text : String) : Option Threshold :=
  let named := (names.find? fun entry => entry.1.toList == Choice.foldCase text).map (·.2)
  match Numeral.read (.unsigned 64) text.toList with
  | .ok number => (ofNumber? number).orElse fun _ => named
  | .error _ => named

def admits (threshold : Threshold) (level : Level) : Bool :=
  match threshold with
  | none => false
  | some limit => level.rank ≤ limit.rank

end Threshold

-- One rule of a filter: for events from targets that start as given and have all of the fields.
-- A rule for events within a span has no say about others, and neither has one about the values
-- of fields.
structure Directive where
  target : Option String
  inSpan : Bool
  fields : List String
  hasValues : Bool
  threshold : Threshold
deriving DecidableEq, Repr

inductive FilterFault where
  | malformed
  | unknownLevel
  | pattern (cause : PatternFault)
deriving DecidableEq, Repr

namespace FilterFault

def message : FilterFault → String
  | .malformed => "invalid filter directive"
  | .unknownLevel =>
      "error parsing level filter: expected one of \"off\", \"error\", \"warn\", \"info\", " ++
        "\"debug\", \"trace\", or a number 0-5"
  | .pattern cause => "invalid field filter: " ++ cause.message

end FilterFault

namespace Directive

-- Which part of a rule is being read, and where it started.
private inductive Part where
  | begin
  | levelOrTarget (start : Nat)
  | span (start : Nat)
  | field (start : Nat)
  | fieldsDone
  | spanDone
  | level (start : Nat)

private def slice (text : List Char) (start stop : Nat) : String :=
  String.ofList ((text.take stop).drop start)

private def from_ (text : List Char) (start : Nat) : String := String.ofList (text.drop start)

private def startsRule (c : Char) : Bool :=
  c == '-' || c == ':' || c == '_' || Text.isLetterOrNumber c

private def isNumber (text : List Char) : Bool :=
  let unsigned := (Decimal.Real.signed text).2.map Char.toLower
  (Decimal.Real.read? text).isSome ||
    ["inf".toList, "infinity".toList, "nan".toList].contains unsigned

-- A value that is neither a truth value nor a number is a pattern. What follows a second equals
-- sign is passed over.
private def patternFault? (value : String) : Option PatternFault :=
  if value = "true" ∨ value = "false" ∨ isNumber value.toList then none
  else Pattern.fault? value

private def addField (field : String) (directive : Directive) : Except FilterFault Directive := do
  let name :: values := field.splitOn "=" | throw .malformed
  if field = "" then throw .malformed
  if let some fault := values.head?.bind patternFault? then throw (.pattern fault)
  return { directive with
    fields := directive.fields ++ [name]
    hasValues := directive.hasValues || !values.isEmpty }

private def step (text : List Char) (place : Nat) (c : Char) (part : Part)
    (directive : Directive) : Except FilterFault (Part × Directive) :=
  match part with
  | .begin =>
      if c = '[' then .ok (.span (place + 1), directive)
      else if startsRule c then .ok (.levelOrTarget place, directive)
      else .error .malformed
  | .levelOrTarget start =>
      if c = '=' then
        .ok (.level (place + 1), { directive with target := some (slice text start place) })
      else if c = '[' then
        .ok (.span (place + 1), { directive with target := some (slice text start place) })
      else .ok (part, directive)
  | .span start =>
      if c = ']' then .ok (.spanDone, { directive with inSpan := true })
      else if c = '\x7b' then
        .ok (.field (place + 1), { directive with inSpan := slice text start place != "" })
      else .ok (part, directive)
  | .field start =>
      if c = '\x7d' then do
        return (.fieldsDone, ← addField (slice text start place) directive)
      else .ok (part, directive)
  | .fieldsDone => if c = ']' then .ok (.spanDone, directive) else .error .malformed
  | .spanDone => if c = '=' then .ok (.level (place + 1), directive) else .error .malformed
  | .level _ => .ok (part, directive)

private def steps (text : List Char) : (place : Nat) → List Char → Part → Directive →
    Except FilterFault (Part × Directive)
  | _, [], part, directive => .ok (part, directive)
  | place, c :: rest, part, directive => do
      let (part, directive) ← step text place c part directive
      steps text (place + 1) rest part directive

private def finish (text : List Char) (part : Part) (directive : Directive) :
    Except FilterFault Directive :=
  match part with
  | .levelOrTarget start =>
      match Threshold.read? (from_ text start) with
      | some threshold => .ok { directive with threshold }
      | none => .ok { directive with target := some (from_ text start) }
  | .level start =>
      let name := from_ text start
      if name = "" then .ok directive
      else match Threshold.read? name with
        | some threshold => .ok { directive with threshold }
        | none => .error .unknownLevel
  | .spanDone => .ok directive
  | _ => .error .malformed

-- Blanks around a rule are not read, but places are counted from its front all the same.
def read (text : String) : Except FilterFault Directive := do
  let blank : Directive := ⟨none, false, [], false, some .trace⟩
  let (part, directive) ← steps text.toList 0 (Text.trim text).toList .begin blank
  finish text.toList part directive

-- The rule can be told to hold for an event from the event alone.
def isPlain (directive : Directive) : Bool := !directive.inSpan && !directive.hasValues

private def hasField (event : Event) (name : String) : Bool :=
  name == "message" || event.fields.any fun field => field.1 == name

def concerns (directive : Directive) (event : Event) : Bool :=
  (match directive.target with
    | some target => target.toList.isPrefixOf event.target.toList
    | none => true) &&
  directive.fields.all (hasField event)

-- The length of the target, where a rule without a target comes first, and the fields.
private def weight (directive : Directive) : Nat × Nat :=
  (match directive.target with
    | some target => target.utf8ByteSize + 1
    | none => 0, directive.fields.length)

-- A later rule takes the place of an earlier one that is no more specific.
private def outweighs (earlier later : Directive) : Bool :=
  let (a, b) := weight earlier
  let (c, d) := weight later
  if a = c then
    if b = d then decide (later.fields < earlier.fields) else decide (d < b)
  else decide (c < a)

private def moreSpecific (earlier later : Directive) : Directive :=
  if outweighs earlier later then earlier else later

end Directive

-- The rules of a filter. Of those that concern an event, the most specific one decides.
structure Filter where
  directives : List Directive
deriving DecidableEq, Repr

namespace Filter

-- Rules are set apart by commas. Without any rule only errors are let through.
def read (text : String) : Except FilterFault Filter := do
  let rules := (text.splitOn ",").filter fun rule => rule != ""
  let directives ← rules.mapM Directive.read
  if directives.isEmpty then return ⟨[⟨none, false, [], false, some .error⟩]⟩
  else return ⟨directives⟩

private def decisive? (filter : Filter) (event : Event) : Option Directive :=
  (filter.directives.filter fun rule => rule.isPlain && rule.concerns event).foldl
    (fun best rule => match best with
      | none => some rule
      | some kept => some (Directive.moreSpecific kept rule)) none

def admits (filter : Filter) (event : Event) : Bool :=
  match filter.decisive? event with
  | some rule => Threshold.admits rule.threshold event.level
  | none => false

end Filter

end Switchboard.Log
