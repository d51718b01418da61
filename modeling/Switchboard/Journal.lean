namespace Switchboard

inductive Level where
  | error
  | warn
  | info
  | debug
  | trace
deriving DecidableEq, Repr

namespace Level

def name : Level → String
  | .error => "ERROR"
  | .warn => "WARN"
  | .info => "INFO"
  | .debug => "DEBUG"
  | .trace => "TRACE"

-- From the gravest to the most talkative.
def rank : Level → Nat
  | .error => 1
  | .warn => 2
  | .info => 3
  | .debug => 4
  | .trace => 5

end Level

-- A recorded value. A word is text that was rendered before it was recorded, so a log line
-- shows it without quotes.
inductive FieldValue where
  | text (value : String)
  | word (value : String)
  | flag (value : Bool)
  | count (value : Nat)
deriving DecidableEq, Repr

namespace FieldValue

def rendering : FieldValue → String
  | .text value => value
  | .word value => value
  | .flag value => if value then "true" else "false"
  | .count value => toString value

end FieldValue

-- Something that happened, as told to whoever listens.
structure Event where
  level : Level
  target : String
  message : String
  fields : List (String × FieldValue)
deriving DecidableEq, Repr

-- What was recorded so far, latest first. Only events that are wanted are kept.
structure Journal where
  wanted : Event → Bool
  latestFirst : List Event

namespace Journal

def everything : Journal where
  wanted _ := true
  latestFirst := []

def nothing : Journal where
  wanted _ := false
  latestFirst := []

def events (journal : Journal) : List Event := journal.latestFirst.reverse

def record (journal : Journal) (event : Event) : Journal :=
  if journal.wanted event then
    { journal with latestFirst := event :: journal.latestFirst }
  else journal

def recordAll (journal : Journal) (events : List Event) : Journal := events.foldl record journal

end Journal

-- A computation that may tell the journal what it does. Its value never depends on the journal.
abbrev Logged := StateM Journal

-- What is computed first is passed on, together with all that was recorded until then.
theorem Logged.bind_outcome {α β : Type} (first : Logged α) (next : α → Logged β)
    (journal : Journal) : ((first >>= next).run journal).1 =
      ((next (first.run journal).1).run (first.run journal).2).1 := rfl

def tell (event : Event) : Logged Unit := modify fun journal => journal.record event

-- A value, and all that was told until it was there, whether somebody listened or not.
structure Told (α : Type) where
  value : α
  events : List Event

namespace Told

variable {α β γ : Type}

def silent (value : α) : Told α := ⟨value, []⟩

instance : Coe α (Told α) := ⟨silent⟩

instance : Coe (β → α) (β → Told α) := ⟨fun run argument => silent (run argument)⟩

instance : Coe (β → γ → α) (β → γ → Told α) := ⟨fun run first second => silent (run first second)⟩

-- Tells all of it to the journal.
def retold (told : Told α) : Logged α := do
  modify fun journal => journal.recordAll told.events
  return told.value

end Told

def Logged.told {α : Type} (action : Logged α) : Told α :=
  let (value, journal) := action.run .everything
  ⟨value, journal.events⟩

end Switchboard
