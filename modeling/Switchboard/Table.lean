import Switchboard.Catalog
import Switchboard.Domain
import Switchboard.Json.Document

namespace Switchboard

-- The branch of the fallback chain that takes a token.
inductive Route where
  | action (slot : Nat)
  | integer (value : Int64)
  | text
deriving DecidableEq, Repr

namespace Route

def listing : Route → String
  | .action slot => "Action(" ++ toString slot ++ ")"
  | .integer value => "Integer(" ++ toString value.toInt ++ ")"
  | .text => "Text"

end Route

-- A token that nothing takes.
inductive DispatchError where
  | unknownToken (token : String)
deriving DecidableEq, Repr

namespace DispatchError

def message : DispatchError → String
  | .unknownToken token => "token '" ++ token ++ "' does not match any dispatchable method"

end DispatchError

-- A route together with the method at its end.
inductive Target (H : Type) where
  | action (slot : Nat) (run : H → Told H)
  | integer (value : Int64) (run : H → Int64 → Told H)
  | text (run : H → String → Told H)

namespace Target

variable {H : Type}

def route : Target H → Route
  | .action slot _ => .action slot
  | .integer value _ => .integer value
  | .text _ => .text

def invoke (token : String) (handler : H) : Target H → Told H
  | .action _ run => run handler
  | .integer value run => run handler value
  | .text run => run handler token

end Target

-- Where every token goes. An action takes exactly its own token, even one that a sink would also
-- accept; of the rest the integer sink takes the integers of its domain, and the string sink
-- takes what is left.
structure Table (H : Type) where
  actions : Array (BoundAction H)
  index : Std.HashMap String Nat
  integerSink : Option (BoundSink (H → Int64 → Told H))
  stringSink : Option (BoundSink (H → String → Told H))
  domain : Domain

namespace Table

variable {H : Type}

def indexFrom (slot : Nat) (index : Std.HashMap String Nat) :
    List (BoundAction H) → Std.HashMap String Nat
  | [] => index
  | action :: rest => indexFrom (slot + 1) (index.insert action.token slot) rest

def ofMethodSet (set : MethodSet H) (domain : Domain) : Table H where
  actions := set.actions
  index := indexFrom 0 ∅ set.actions.toList
  integerSink := set.integerSink
  stringSink := set.stringSink
  domain := domain

def size (table : Table H) : Nat := table.actions.size

def isEmpty (table : Table H) : Bool := table.actions.isEmpty

def compile (methods : List (Method H)) (domain : Domain) :
    Logged (Except CompileError (Table H)) := do
  match ← MethodSet.compile methods with
  | .error fault => return .error fault
  | .ok set =>
      let table := ofMethodSet set domain
      tell {
        level := .info
        target := compileTarget
        message := "compiled dispatch table"
        fields := [("actions", .count table.size),
          ("integer_sink", .flag table.integerSink.isSome),
          ("string_sink", .flag table.stringSink.isSome),
          ("numeric_domain", .word domain.name)] }
      return .ok table

def actionAt? (table : Table H) (token : String) : Option (Nat × BoundAction H) := do
  let slot ← table.index[token]?
  let action ← table.actions[slot]?
  return (slot, action)

def target? (table : Table H) (token : String) : Option (Target H) :=
  match table.actionAt? token with
  | some (slot, action) => some (.action slot action.run)
  | none =>
      match table.integerSink, table.domain.parse token with
      | some sink, some value => some (.integer value sink.run)
      | _, _ => table.stringSink.map fun sink => .text sink.run

def route (table : Table H) (token : String) : Except DispatchError Route :=
  match table.target? token with
  | some target => .ok target.route
  | none => .error (.unknownToken token)

def dispatchTarget : String := "textdispatch-core::dispatch"

def dispatchEvent (token : String) (route : Route) : Event where
  level := .debug
  target := dispatchTarget
  message := "dispatching token"
  fields := [("token", .text token), ("route", .word route.listing)]

-- Calls the one method that takes the token, or none. Only a token that is taken is told, and that
-- is told before its method is called.
def dispatch (table : Table H) (handler : H) (token : String) :
    Logged (Except DispatchError Route × H) := do
  match table.target? token with
  | none => return (.error (.unknownToken token), handler)
  | some target =>
      tell (dispatchEvent token target.route)
      let handler ← (target.invoke token handler).retold
      return (.ok target.route, handler)

-- Tokens before the first that nothing takes stay applied. The count is that of all tokens.
def dispatchAllFrom (table : Table H) : (count : Nat) → H → List String →
    Logged (Except DispatchError Nat × H)
  | count, handler, [] => return (.ok count, handler)
  | count, handler, token :: rest => do
      match ← table.dispatch handler token with
      | (.error fault, handler) => return (.error fault, handler)
      | (.ok _, handler) => dispatchAllFrom table (count + 1) handler rest

def dispatchAll (table : Table H) (handler : H) (tokens : List String) :
    Logged (Except DispatchError Nat × H) :=
  table.dispatchAllFrom 0 handler tokens

def contains (table : Table H) (token : String) : Bool := table.index.contains token

def methodFor? (table : Table H) (token : String) : Option String :=
  (table.actionAt? token).map fun (_, action) => action.method

def methodAt? (table : Table H) (slot : Nat) : Option String :=
  table.actions[slot]?.map (·.method)

def tokens (table : Table H) : List String := table.actions.toList.map (·.token)

def catalog (table : Table H) : Catalog := Catalog.ofActions table.actions

end Table

-- A handler type, given by its methods in the order of declaration.
class Handler (H : Type) where
  methods : List (Method H)

namespace Handler

def compileTable (H : Type) [Handler H] (domain : Domain) :
    Logged (Except CompileError (Table H)) :=
  Table.compile methods domain

def compileCatalog (H : Type) [Handler H] : Logged (Except CompileError Catalog) :=
  Catalog.compile (methods (H := H))

end Handler

end Switchboard
