import Switchboard.MethodSet

namespace Switchboard

-- One row of a catalog.
structure CatalogEntry where
  id : UInt16
  method : String
  token : String
deriving DecidableEq, Repr

-- Why a stream of tokens or ids cannot be coded.
inductive CodecError where
  | unknownToken (token : String)
  | unknownId (id : UInt16)
deriving DecidableEq, Repr

namespace CodecError

def message : CodecError → String
  | .unknownToken token => "token '" ++ token ++ "' is not in the catalog"
  | .unknownId id => "catalog id " ++ toString id.toNat ++ " is out of range for this catalog"

end CodecError

-- The ids of all action tokens, in the order of declaration, so that commands can be stored as
-- small numbers. Sinks accept no fixed token and have no id.
structure Catalog where
  entries : Array CatalogEntry
  index : Std.HashMap String UInt16

namespace Catalog

def ofEntries (entries : Array CatalogEntry) : Catalog where
  entries := entries
  index := entries.foldl (fun index entry => index.insert entry.token entry.id) ∅

def ofActions {H : Type} (actions : Array (BoundAction H)) : Catalog :=
  ofEntries (actions.map fun action => ⟨action.id, action.method, action.token⟩)

-- The method set is checked as for a table, so a set has both or neither.
def compile {H : Type} (methods : List (Method H)) : Logged (Except CompileError Catalog) := do
  return (← MethodSet.compile methods).map fun set => ofActions set.actions

def encode (catalog : Catalog) (token : String) : Except CodecError UInt16 :=
  match catalog.index[token]? with
  | some id => .ok id
  | none => .error (.unknownToken token)

def decode (catalog : Catalog) (id : UInt16) : Except CodecError String :=
  match catalog.entries[id.toNat]? with
  | some entry => .ok entry.token
  | none => .error (.unknownId id)

def idAt? (catalog : Catalog) (position : Nat) : Option UInt16 :=
  catalog.entries[position]?.map (·.id)

def size (catalog : Catalog) : Nat := catalog.entries.size

def isEmpty (catalog : Catalog) : Bool := catalog.entries.isEmpty

end Catalog

end Switchboard
