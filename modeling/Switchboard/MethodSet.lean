import Switchboard.TokenClaims

namespace Switchboard

-- One id for every 16-bit number.
def catalogLimit : Nat := 65536

-- An action that can be called, with the token and the id it goes by.
structure BoundAction (H : Type) where
  id : UInt16
  token : String
  method : String
  run : H → Told H

-- A sink that can be called, and the place of its declaration in the whole method set.
structure BoundSink (F : Type) where
  method : String
  run : F
  declaredAt : Nat

-- The dispatchable part of a method set in which nothing is wrong.
structure MethodSet (H : Type) where
  actions : Array (BoundAction H)
  integerSink : Option (BoundSink (H → Int64 → Told H))
  stringSink : Option (BoundSink (H → String → Told H))

namespace MethodSet

variable {H : Type}

def empty : MethodSet H := ⟨#[], none, none⟩

-- The next id, as long as there is one.
def nextId? (set : MethodSet H) : Option UInt16 :=
  if set.actions.size < catalogLimit then some (UInt16.ofNat set.actions.size) else none

def invalidSink (method : Method H) (kind : SinkKind) : CompileError :=
  .invalidSinkArity method.name kind method.signature.parameterCount

-- Puts a sink into its place, which must still be free.
def install {F : Type} (place : Option (BoundSink F)) (kind : SinkKind)
    (method : Method H) (run : F) (index : Nat) : Except CompileError (BoundSink F) :=
  if method.signature.parameterCount ≠ 1 then .error (invalidSink method kind)
  else match place with
    | some earlier => .error (.duplicateSink kind earlier.declaredAt index)
    | none => .ok ⟨method.name, run, index⟩

-- Takes in the method at one place of the declaration. A token is claimed before the binding is
-- looked at, so of two faults in one action the contested token is the one reported.
def add (total index : Nat) (method : Method H) (set : MethodSet H) (claims : TokenClaims) :
    Except CompileError (MethodSet H × TokenClaims) :=
  match method.role with
  | .action => do
      let claims ← claims.claim method
      match method.binding with
      | some (.action run) =>
          match set.nextId? with
          | some id =>
              let action : BoundAction H := ⟨id, method.token, method.name, run⟩
              return ({ set with actions := set.actions.push action }, claims)
          | none => throw (.catalogOverflow total catalogLimit)
      | _ => throw (.unboundAction method.name)
  | .sink .integer =>
      match method.binding with
      | some (.integer run) => do
          let sink ← install set.integerSink .integer method run index
          return ({ set with integerSink := some sink }, claims)
      | _ => throw (invalidSink method .integer)
  | .sink .string =>
      match method.binding with
      | some (.text run) => do
          let sink ← install set.stringSink .string method run index
          return ({ set with stringSink := some sink }, claims)
      | _ => throw (invalidSink method .string)
  | .excluded | .ignored => return (set, claims)

def addAll (total : Nat) : (index : Nat) → List (Method H) → MethodSet H → TokenClaims →
    Except CompileError (MethodSet H)
  | _, [], set, _ => .ok set
  | index, method :: rest, set, claims =>
      match add total index method set claims with
      | .error fault => .error fault
      | .ok (set, claims) => addAll total (index + 1) rest set claims

def actionCount (methods : List (Method H)) : Nat :=
  methods.countP fun method => method.role = .action

-- Too many actions outweigh every other fault; else the first fault in the order of declaration
-- is the one reported.
def ofMethods (methods : List (Method H)) : Except CompileError (MethodSet H) :=
  let total := actionCount methods
  if catalogLimit < total then .error (.catalogOverflow total catalogLimit)
  else addAll total 0 methods empty ∅

-- Tells the part of every method, and the outcome if nothing is wrong.
def compile (methods : List (Method H)) : Logged (Except CompileError (MethodSet H)) := do
  tellRoles methods
  match ofMethods methods with
  | .error fault => return .error fault
  | .ok set =>
      tell {
        level := .debug
        target := compileTarget
        message := "partitioned method set"
        fields := [("actions", .count set.actions.size),
          ("integer_sink", .flag set.integerSink.isSome),
          ("string_sink", .flag set.stringSink.isSome)] }
      return .ok set

end MethodSet

end Switchboard
