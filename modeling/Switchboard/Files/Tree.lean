import Switchboard.Files.Path
import Switchboard.Files.Reading

namespace Switchboard

-- A few files in folders under one top folder, and the folder from which paths start. Nothing is
-- known of what lies outside.
structure FileTree where
  top : String
  start : List String
  folders : List (List String)
  files : List (List String × List UInt8)
deriving Repr

namespace FileTree

-- Where a path has led so far. Names lead from the top folder down.
inductive Spot where
  | folder (names : List String)
  | file (names : List String) (bytes : List UInt8)
  | outside
deriving DecidableEq, Repr

def nameLimit : Nat := 255

def pathLimit : Nat := 4096

def isFolder (tree : FileTree) (names : List String) : Bool :=
  tree.folders.any fun folder => names.isPrefixOf folder

def isFolderOfFile (tree : FileTree) (names : List String) : Bool :=
  tree.files.any fun entry => names.isPrefixOf entry.1 && entry.1 != names

-- The spot with a given name in a folder.
def child (tree : FileTree) (names : List String) (name : String) : Except FileFault Spot :=
  if nameLimit < name.utf8ByteSize then .error .nameTooLong
  else
    let names := names ++ [name]
    match tree.files.find? fun entry => entry.1 == names with
    | some (_, bytes) => .ok (.file names bytes)
    | none =>
        if tree.isFolder names || tree.isFolderOfFile names then .ok (.folder names)
        else .error .missing

def step (tree : FileTree) (spot : Spot) (name : String) : Except FileFault Spot :=
  match spot with
  | .file _ _ => .error .notFolder
  | .outside => if name = "" ∨ name = "." ∨ name = ".." then .ok .outside else .error .missing
  | .folder names =>
      if name = "" ∨ name = "." then .ok (.folder names)
      else if name = ".." then .ok (if names.isEmpty then .outside else .folder names.dropLast)
      else tree.child names name

def follow (tree : FileTree) : Spot → List String → Except FileFault Spot
  | spot, [] => .ok spot
  | spot, name :: rest => do tree.follow (← tree.step spot name) rest

def written (tree : FileTree) (names : List String) : String :=
  "/".intercalate (tree.top :: names)

def spotOf (tree : FileTree) (path : String) : Except FileFault Spot :=
  let ofNames (spot : Spot) (path : List Char) : Except FileFault Spot :=
    tree.follow spot ((Path.names path).map String.ofList)
  if path.toList.contains '\x00' then .error .zeroByte
  else if path = "" then .error .missing
  else if pathLimit ≤ path.utf8ByteSize then .error .nameTooLong
  else if path.startsWith (tree.top ++ "/") then
    ofNames (.folder []) (path.toList.drop (tree.top.length + 1))
  else if path.startsWith "/" then ofNames .outside path.toList
  else ofNames (.folder tree.start) path.toList

def look (tree : FileTree) (path : SystemText) : FileAnswer :=
  match path with
  | .raw _ => .error .missing
  | .text path => do
      match ← tree.spotOf path with
      | .file names bytes => return .file ⟨.text (tree.written names), bytes⟩
      | .folder names => return .folder (.text (tree.written names))
      | .outside => return .folder (.text "/")

end FileTree

end Switchboard
