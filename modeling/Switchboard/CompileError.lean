import Switchboard.Role

namespace Switchboard

-- A fault in a method set. One fault is enough to refuse the whole set.
inductive CompileError where
  | duplicateToken (token first second : String)
  | invalidSinkArity (method : String) (sink : SinkKind) (parameterCount : Nat)
  | duplicateSink (sink : SinkKind) (first second : Nat)
  | catalogOverflow (actions limit : Nat)
  | unboundAction (method : String)
deriving DecidableEq, Repr

namespace CompileError

def message : CompileError → String
  | .duplicateToken token first second =>
      "token '" ++ token ++ "' is claimed by both '" ++ first ++ "' and '" ++ second ++ "'"
  | .invalidSinkArity method sink parameterCount =>
      "sink '" ++ method ++ "' takes " ++ toString parameterCount ++ " parameter(s); " ++
        sink.name ++ " sinks take exactly one and must be bound to a " ++ sink.name ++ " handler"
  | .duplicateSink sink first second =>
      sink.name ++ " sink declared more than once (declarations #" ++ toString first ++
        " and #" ++ toString second ++ ")"
  | .catalogOverflow actions limit =>
      toString actions ++ " actions exceed the catalog limit of " ++ toString limit ++ " ids"
  | .unboundAction method =>
      "method '" ++ method ++ "' is dispatchable but is not bound to a nullary action"

end CompileError

end Switchboard
