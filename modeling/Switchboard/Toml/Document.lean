import Switchboard.Toml.Scalar
import Switchboard.Toml.Statement

namespace Switchboard.Toml

-- How a table came to be: by a header of its own, by the header of a table below it, by a dotted
-- key, or as a value between braces.
inductive Origin where
  | declared
  | implied
  | dotted
  | inline
deriving DecidableEq, Repr

-- What a key of a document stands for.
inductive Item where
  | datum (datum : Datum)
  | array (items : List Item)
  | table (origin : Origin) (entries : List (String × Item))
  | rows (rows : List (List (String × Item)))

abbrev Entries := List (String × Item)

namespace Document

abbrev Read := Except Fault

-- A part of a key with its text.
structure Name where
  text : String
  span : Span

private def duplicate (name : Name) : Fault := ⟨"duplicate key", none, name.span⟩

private def datumKind : Datum → String
  | .value (.flag _) => "boolean"
  | .value (.integer _) => "integer"
  | .value (.real _) => "float"
  | .value _ => "string"
  | .moment _ => "datetime"
  | .unfit _ => "integer"

private def notExtendable (name : Name) (kind : String) : Fault :=
  ⟨"cannot extend value of type " ++ kind ++ " with a dotted key", none, name.span⟩

private def find? (entries : Entries) (key : String) : Option Item :=
  (List.find? (fun entry => entry.1 == key) entries).map (·.2)

private def put (key : String) (item : Item) : Entries → Entries
  | [] => [(key, item)]
  | (other, kept) :: rest =>
      if other = key then (key, item) :: rest else (other, kept) :: put key item rest

-- Changes the table at the end of a path. Tables that are missing on the way come to be, and in
-- an array of tables the way goes through the last one. A dotted key does not go through a table
-- that has a header of its own.
private def within (byDots : Bool) : List Name → (Origin → Entries → Read Entries) → Origin →
    Entries → Read Entries
  | [], change, origin, entries => change origin entries
  | name :: rest, change, _, entries => do
      match find? entries name.text with
      | none =>
          let origin := if byDots then .dotted else .implied
          let inner ← within byDots rest change origin []
          return put name.text (.table origin inner) entries
      | some (.table .inline _) => throw (notExtendable name "inline table")
      | some (.table origin inner) =>
          if byDots ∧ origin = .declared then throw (duplicate name)
          return put name.text (.table origin (← within byDots rest change origin inner)) entries
      | some (.rows rows) =>
          match rows.getLast? with
          | none => throw (duplicate name)
          | some last =>
              let last ← within byDots rest change .declared last
              return put name.text (.rows (rows.dropLast ++ [last])) entries
      | some (.array _) => throw (notExtendable name "array")
      | some (.datum datum) => throw (notExtendable name (datumKind datum))

private def splitLast (names : List Name) : Option (List Name × Name) :=
  names.getLast?.map fun last => (names.dropLast, last)

-- Behind a dotted key there is a table that came to be by dots, and nowhere else.
private def assign (byDots : Bool) (name : Name) (item : Item) (origin : Origin)
    (entries : Entries) : Read Entries :=
  if byDots ≠ (origin == .dotted) then .error (duplicate name)
  else match find? entries name.text with
    | some _ => .error (duplicate name)
    | none => .ok (put name.text item entries)

private def declare (name : Name) (_ : Origin) (entries : Entries) : Read Entries :=
  match find? entries name.text with
  | none => .ok (put name.text (.table .declared []) entries)
  | some (.table .implied inner) => .ok (put name.text (.table .declared inner) entries)
  | some _ => .error (duplicate name)

private def addRow (name : Name) (_ : Origin) (entries : Entries) : Read Entries :=
  match find? entries name.text with
  | none => .ok (put name.text (.rows [[]]) entries)
  | some (.rows rows) => .ok (put name.text (.rows (rows ++ [[]])) entries)
  | some _ => .error (duplicate name)

def slice (text : Array Char) (span : Span) : List Char :=
  (text.extract span.start span.stop).toList

private def severalLines (problem : String) (part : KeyPart) : Fault :=
  ⟨problem, some ["basic string", "literal string"], part.span⟩

def nameOf (text : Array Char) (part : KeyPart) : Read Name := do
  let inside := slice text part.span
  let name ← match part.quoting with
    | some .literalLines => throw (severalLines "keys cannot be multi-line literal strings" part)
    | some .basicLines => throw (severalLines "keys cannot be multi-line basic strings" part)
    | some quoting => Quoted.read quoting inside part.span
    | none => Scalar.key inside part.span
  return ⟨name, part.span⟩

private def addPair (names : List Name) (item : Item) (origin : Origin) (entries : Entries) :
    Read Entries :=
  match splitLast names with
  | none => .ok entries
  | some (path, name) => within true path (assign (!path.isEmpty) name item) origin entries

mutual

def itemOf (text : Array Char) : Node → Read Item
  | .scalar span (some quoting) => do
      return .datum (.value (.text (← Quoted.read quoting (slice text span) span)))
  | .scalar span none => do return .datum (← Scalar.bare (slice text span) span)
  | .array items => do return .array (← itemsOf text items)
  | .inline entries => do return .table .inline (← entriesOf text [] entries)

private def itemsOf (text : Array Char) : List Node → Read (List Item)
  | [] => return []
  | item :: rest => do
      let value ← itemOf text item
      return value :: (← itemsOf text rest)

private def entriesOf (text : Array Char) (done : Entries) :
    List (List KeyPart × Node) → Read Entries
  | [] => return done
  | (key, item) :: rest => do
      let names ← key.mapM (nameOf text)
      let value ← itemOf text item
      entriesOf text (← addPair names value .inline done) rest

end

-- The table that assignments go to, as the path of its header.
structure Place where
  path : List Name
  entries : Entries

def follow (text : Array Char) (place : Place) : Statement → Read Place
  | .assignment key item => do
      let names ← key.mapM (nameOf text)
      let value ← itemOf text item
      return { place with
        entries := ← within false place.path (addPair names value) .declared place.entries }
  | .header key => do
      let names ← key.mapM (nameOf text)
      match splitLast names with
      | none => return place
      | some (path, name) =>
          return ⟨names, ← within false path (declare name) .declared place.entries⟩
  | .rowHeader key => do
      let names ← key.mapM (nameOf text)
      match splitLast names with
      | none => return place
      | some (path, name) =>
          return ⟨names, ← within false path (addRow name) .declared place.entries⟩

-- Of two faults in a table the one with the lower key comes first.
private def lower (key : String) (fault : Option Fault) (found : Option (String × Fault)) :
    Option (String × Fault) :=
  match fault, found with
  | none, found => found
  | some fault, none => some (key, fault)
  | some fault, some (other, kept) =>
      if other < key then some (other, kept) else some (key, fault)

mutual

private def unfit? : Item → Option Fault
  | .datum (.unfit fault) => some fault
  | .datum _ => none
  | .array items => firstUnfit? items
  | .table _ entries => (lowestUnfit? entries).map (·.2)
  | .rows rows => unfitInRows? rows

private def firstUnfit? : List Item → Option Fault
  | [] => none
  | item :: rest => (unfit? item).orElse fun _ => firstUnfit? rest

private def lowestUnfit? : List (String × Item) → Option (String × Fault)
  | [] => none
  | (key, item) :: rest => lower key (unfit? item) (lowestUnfit? rest)

private def unfitInRows? : List (List (String × Item)) → Option Fault
  | [] => none
  | row :: rest => ((lowestUnfit? row).map (·.2)).orElse fun _ => unfitInRows? rest

end

-- A moment is a table, whose only key stands nowhere else.
def momentKey : String := "$__toml_private_datetime"

mutual

private def plain : Item → Value
  | .datum (.value value) => value
  | .datum (.moment text) => .table [(momentKey, .text text)]
  | .datum (.unfit _) => .null
  | .array items => .array (plainItems items)
  | .table _ entries => .table (plainEntries entries)
  | .rows rows => .array (plainRows rows)

private def plainItems : List Item → List Value
  | [] => []
  | item :: rest => plain item :: plainItems rest

private def plainEntries : List (String × Item) → List (String × Value)
  | [] => []
  | (key, item) :: rest => (key, plain item) :: plainEntries rest

private def plainRows : List (List (String × Item)) → List Value
  | [] => []
  | row :: rest => .table (plainEntries row) :: plainRows rest

end

-- The table that a document describes. Values that cannot be held are told apart last.
def read (document : String) : Except Fault (List (String × Value)) := do
  let text := document.toList.toArray
  let statements ← Statement.read text (Token.ofText document.toList)
  let place ← statements.foldlM (follow text) ⟨[], []⟩
  match lowestUnfit? place.entries with
  | some (_, fault) => throw fault
  | none => return plainEntries place.entries

end Document

end Switchboard.Toml
