import Switchboard.Proofs.Command.Faults
import Switchboard.Proofs.Json.Reading
import Switchboard.Proofs.Text.Utf8

namespace Switchboard

namespace Json

-- Parts of a document that has been read.

def asText? : Json → Option String
  | .text value => some value
  | _ => none

def asInteger? : Json → Option Int
  | .integer value => some value
  | _ => none

def asItems? : Json → Option (List Json)
  | .array items => some items
  | _ => none

def field? (key : String) : Json → Option Json
  | .object members => members.lookup key
  | _ => none

def textField? (key : String) (json : Json) : Option String := do (← json.field? key).asText?

def listOf? {α : Type} (decode? : Json → Option α) (json : Json) : Option (List α) := do
  (← json.asItems?).mapM decode?

def listField? {α : Type} (decode? : Json → Option α) (key : String) (json : Json) :
    Option (List α) := do
  (← json.field? key).listOf? decode?

-- A member that is null stands for nothing.
def optionalTextField? (key : String) (json : Json) : Option (Option String) := do
  match ← json.field? key with
  | .null => return none
  | value => return some (← value.asText?)

theorem listOf?_array {α : Type} (encode : α → Json) (decode? : Json → Option α)
    (h : ∀ value, decode? (encode value) = some value) (values : List α) :
    (Json.array (values.map encode)).listOf? decode? = some values := by
  change (values.map encode).mapM decode? = some values
  induction values with
  | nil => rfl
  | cons value rest ih => simp only [List.map_cons, List.mapM_cons, h, ih, Option.pure_def,
      Option.bind_eq_bind, Option.bind_some]

end Json

namespace Summary

def actionOfJson? (json : Json) : Option ActionSummary := do
  return ⟨← json.textField? "token", ← json.textField? "method"⟩

def ofJson? (json : Json) : Option Summary := do
  return {
    actions := ← json.listField? actionOfJson? "actions"
    integerSink := ← json.optionalTextField? "integer_sink"
    stringSink := ← json.optionalTextField? "string_sink"
    domain := ← Choice.ofName? (← json.textField? "numeric_domain") }

theorem ofJson?_toJson (summary : Summary) : ofJson? summary.toJson = some summary := by
  obtain ⟨actions, integerSink, stringSink, domain⟩ := summary
  have hactions := Json.listOf?_array (fun action : ActionSummary =>
    .object [("token", .text action.token), ("method", .text action.method)])
    actionOfJson? (fun _ => rfl) actions
  have hfield : (toJson ⟨actions, integerSink, stringSink, domain⟩).listField? actionOfJson?
      "actions" = some actions := hactions
  simp only [ofJson?, hfield, Option.bind_eq_bind, Option.bind_some]
  cases integerSink <;> cases stringSink <;> cases domain <;> rfl

end Summary

namespace Check

def ofJson? (json : Json) : Option Check := do
  return ⟨← json.textField? "line", ← json.textField? "expected", ← json.textField? "actual"⟩

end Check

namespace Run

-- All that a run comes to when it neither fails nor runs out of fuel.
def Gives {α : Type} (wanted : α → Prop) (run : Run α) : Prop :=
  ∀ journal value, (run.run.run journal).1 = some (.ok value) → wanted value

namespace Gives

variable {α β : Type} {wanted : β → Prop}

theorem pure {value : β} (h : wanted value) : Gives wanted (Pure.pure value : Run β) := by
  intro journal result heq
  cases heq
  exact h

-- Only the end of a run counts.
theorem bind {first : Run α} {next : α → Run β} (h : ∀ value, Gives wanted (next value)) :
    Gives wanted (first >>= next) := by
  intro journal result
  rw [run_bind]
  rcases first.run.run journal with ⟨_ | cause | value, after⟩
  · exact nofun
  · exact nofun
  · exact h value after result

end Gives

end Run

namespace Command

open Text (padLeft)

def linesText (lines : List String) : String := String.join (lines.map fun line => line ++ "\n")

def wordsText (words : List String) : String := " ".intercalate words ++ "\n"

-- What people are shown of a command, made from the document that tools are given.
def shownFrom? (document : Json) : Command → Option String
  | .tape _ _ _ => document.textField? "output"
  | .stack _ => do
      let output ← document.textField? "output"
      let cells ← document.listField? Json.asInteger? "stack"
      return (if output = "" then "" else output ++ "\n") ++
        (if cells = [] then "" else "stack: " ++ wordsText (cells.map toString))
  | .demo => do
      let showcase ← document.listField? Json.asText? "showcase"
      let samples ← document.listField? Json.asText? "brainf"
      let checks ← document.listField? Check.ofJson? "forth"
      return linesText
        (("SHOWCASE:" :: showcase.map fun line => "\t" ++ line) ++
        ("BRAINF CAN EXECUTE:" :: samples.map fun line => "\t" ++ line) ++
        ("FORTH SELF TEST:" :: checks.map fun check =>
          "\t" ++ (padLeft 5 check.expected ++ " == " ++ check.actual)))
  | .describe _ => do return (← Summary.ofJson? document).describe ++ "\n"
  | .encode _ _ => do return wordsText ((← document.listOf? Json.asInteger?).map toString)
  | .decode _ _ => do return wordsText (← document.listOf? Json.asText?)

-- The bytes of a tape program are shown as they are, and need not be text.
def PrintsBytes : Command → Prop
  | .tape _ _ _ => True
  | _ => False

-- What a command has to tell.
def Tells : Command → Report → Prop
  | .tape _ _ _, .tape _ _ => True
  | .stack _, .stack _ _ => True
  | .demo, .demo _ _ _ => True
  | .describe _, .description _ => True
  | .encode _ _, .encoded _ => True
  | .decode _ _, .decoded _ => True
  | _, _ => False

theorem perform_tells (announce : Bool) (fuel : Nat) (config : Config) (code : Option String)
    (command : Command) :
    Run.Gives command.Tells (command.perform announce fuel config code) := by
  cases command with
  | tape file given input =>
      exact .bind fun _ => .bind fun _ => .bind fun _ => .pure trivial
  | stack lines => exact .bind fun _ => .bind fun _ => .pure trivial
  | demo =>
      exact .bind fun _ => .bind fun _ => .bind fun _ => .bind fun _ => .bind fun _ =>
        .bind fun _ => .pure trivial
  | describe handler => exact .bind fun _ => .pure trivial
  | encode handler tokens => exact .bind fun _ => .bind fun _ => .pure trivial
  | decode handler ids => exact .bind fun _ => .bind fun _ => .pure trivial

theorem bytes_lineWrite (lines : List String) :
    (lines.map Report.lineWrite).flatMap (·.2) = Text.Utf8.encode (linesText lines) := by
  rw [linesText, Text.Utf8.encode_join, List.flatMap_map, List.flatMap_map]
  rfl

theorem shownFrom?_stack (lines : List String) (printed : String) (cells : List Int64) :
    ∃ text, (Command.stack lines).shownFrom? (Report.stack printed cells).toJson = some text ∧
      (Report.stack printed cells).written .human = Text.Utf8.encode text := by
  have hcells : (Report.stack printed cells).toJson.listField? Json.asInteger? "stack" =
      some (cells.map Int64.toInt) := by
    have hlist := Json.listOf?_array Json.integer Json.asInteger?
      (fun _ => rfl) (cells.map Int64.toInt)
    rwa [List.map_map] at hlist
  have houtput : (Report.stack printed cells).toJson.textField? "output" = some printed := rfl
  simp only [shownFrom?, hcells, houtput, Option.bind_eq_bind, Option.bind_some, Option.pure_def]
  refine ⟨_, rfl, ?_⟩
  have htexts : (cells.map Int64.toInt).map toString = Report.cellTexts cells := by
    rw [List.map_map]
    rfl
  rw [htexts, Text.Utf8.encode_append]
  change ((if printed.isEmpty then [] else [Report.lineWrite printed]) ++ _).flatMap _ = _
  rw [List.flatMap_append]
  congr 1
  · by_cases h : printed = ""
    · subst h
      rfl
    · rw [if_neg (by simpa using h), if_neg h]
      exact List.append_nil _
  · cases cells with
    | nil => rfl
    | cons cell cells =>
        rw [if_neg (by simp), if_neg (by simp), wordsText, ← String.append_assoc]
        exact List.append_nil _

-- The report of a command is shown as it can be shown from its document alone.
theorem shownFrom?_toJson {command : Command} {report : Report} (h : command.Tells report) :
    ∃ text, command.shownFrom? report.toJson = some text ∧
      ((command.PrintsBytes → ∃ printed, report.written .human = Text.Utf8.encode printed) →
        report.written .human = Text.Utf8.encode text) := by
  cases command <;> cases report <;> cases h
  case tape.tape file code input printed pointer =>
    refine ⟨String.ofList (Text.Utf8.decodeLossy printed), rfl, fun hvalid => ?_⟩
    have hprinted : (Report.tape printed pointer).written .human = printed := List.append_nil _
    obtain ⟨text, htext⟩ := hvalid trivial
    rw [hprinted] at htext ⊢
    rw [htext, Text.Utf8.decodeLossy_encode, String.ofList_toList]
  case stack.stack lines printed cells =>
    obtain ⟨text, hread, hshown⟩ := shownFrom?_stack lines printed cells
    exact ⟨text, hread, fun _ => hshown⟩
  case demo.demo showcase samples checks =>
    have htexts := Json.listOf?_array Json.text Json.asText? fun _ => rfl
    have hchecks := Json.listOf?_array Report.checkJson Check.ofJson?
      (fun _ => rfl) checks
    have hread : (Report.demo showcase samples checks).toJson.listField? Json.asText? "showcase" =
          some showcase ∧
        (Report.demo showcase samples checks).toJson.listField? Json.asText? "brainf" =
          some samples ∧
        (Report.demo showcase samples checks).toJson.listField? Check.ofJson? "forth" =
          some checks := ⟨htexts showcase, htexts samples, hchecks⟩
    simp only [shownFrom?, hread, Option.bind_eq_bind, Option.bind_some, Option.pure_def]
    exact ⟨_, rfl, fun _ => bytes_lineWrite _⟩
  case describe.description handler summary =>
    simp only [shownFrom?, Report.toJson, Summary.ofJson?_toJson]
    exact ⟨_, rfl, fun _ => List.append_nil _⟩
  case encode.encoded handler tokens ids =>
    have hids := Json.listOf?_array Json.integer Json.asInteger?
      (fun _ => rfl) (ids.map fun id => (id.toNat : Int))
    rw [List.map_map] at hids
    have hread : (Report.encoded ids).toJson.listOf? Json.asInteger? =
        some (ids.map fun id => (id.toNat : Int)) := hids
    simp only [shownFrom?, hread, Option.bind_eq_bind, Option.bind_some, Option.pure_def,
      List.map_map]
    exact ⟨_, rfl, fun _ => List.append_nil _⟩
  case decode.decoded handler ids tokens =>
    have hread : (Report.decoded tokens).toJson.listOf? Json.asText? = some tokens :=
      Json.listOf?_array Json.text Json.asText? (fun _ => rfl) tokens
    simp only [shownFrom?, hread, Option.bind_eq_bind, Option.bind_some, Option.pure_def]
    exact ⟨_, rfl, fun _ => List.append_nil _⟩

end Command

end Switchboard
