import Switchboard.Config.Environment
import Switchboard.Config.Fault
import Switchboard.Files.Path

namespace Switchboard

-- Where settings are looked for, and how a file builds on another one.
namespace ConfigFiles

abbrev Result (α : Type) := Except ConfigFault α

def extendsKey : String := "extends"

private def kind : Value → String
  | .null => "null"
  | .flag _ => "bool"
  | .integer _ => "number"
  | .real _ => "number"
  | .text _ => "string"
  | .array _ => "array"
  | .table _ => "object"

-- The path of the file that lies below, if one is named.
def basis? (path : String) (layer : Layer) : Result (Option String) :=
  match layer.find? extendsKey with
  | none => .ok none
  | some (.text "") => .error (.file path .basisEmpty)
  | some (.text basis) => .ok (some basis)
  | some other => .error (.file path (.basisNotText (kind other)))

-- A relative path starts in the folder of the file that names it.
def besides (path basis : String) : String :=
  if Path.isAbsolute basis then basis
  else
    let folder := (path.toList.reverse.dropWhile (· != '/')).reverse
    String.ofList folder ++ basis

-- Files of some other formats are told by how their names end.
def formatFault? (path : String) : Option FileSettingsFault :=
  match (Path.suffix? path).map fun suffix => suffix.toList.map Char.toLower with
  | none => none
  | some suffix =>
      if suffix = "json".toList ∨ suffix = "json5".toList then
        some (.unknownFormat "json5" "json5")
      else if suffix = "yaml".toList ∨ suffix = "yml".toList then
        some (.unknownFormat "yaml" "yaml")
      else none

def layerOf (path : String) (file : FoundFile) : Result Layer :=
  match file.text, formatFault? path with
  | .error fault, _ => .error (.file path (.unreadable fault))
  | .ok _, some fault => .error (.file path fault)
  | .ok text, none =>
      match Toml.Document.read text, Toml.Edition.fault? text with
      | .error fault, _ => .error (.file path (.malformed (fault.report text)))
      | .ok _, some fault => .error (.document (fault.report text))
      | .ok entries, none => .ok entries

-- The file that a path leads to, if anything stands there.
def regular (path : SystemText) : Reading (Result (Option FoundFile)) := do
  let refuse := fun cause => return .error (.file path.shown cause)
  if (Path.lastName? path.shown).isNone then refuse .nameless
  else match ← Reading.place path with
    | .ok (.file file) => return .ok (some file)
    | .ok (.folder _) => refuse .notFile
    | .error .missing => return .ok none
    | .error fault => refuse (.unreadable fault)

-- The file that another one builds on. Here a folder is called by its one path.
private def basisFile (wanted path : String) : Reading (Result FoundFile) := do
  match ← Reading.place (.text wanted) with
  | .ok (.file file) => return .ok file
  | .ok (.folder place) =>
      let nameless := (Path.lastName? place.shown).isNone
      return .error (.file place.shown (if nameless then .nameless else .notFile))
  | .error .missing => return .error (.file wanted (.basisAbsent wanted path))
  | .error fault => return .error (.file wanted (.unreadable fault))

-- The settings of a file over those of the file that it builds on. The files above are those
-- that build on it, the first of them first, and none of them may come again.
def chain : (fuel : Nat) → (above : List String) → FoundFile → Reading (Result Layer)
  | 0, above, _ => return .error (.cycle above)
  | fuel + 1, above, file => do
      let path := file.path.shown
      if above.contains path then return .error (.cycle (above ++ [path]))
      match layerOf path file with
      | .error fault => return .error fault
      | .ok layer =>
          match basis? path layer with
          | .error fault => return .error fault
          | .ok none => return .ok layer.finite
          | .ok (some basis) =>
              match ← basisFile (besides path basis) path with
              | .error fault => return .error fault
              | .ok below =>
                  match ← chain fuel (above ++ [path]) below with
                  | .error fault => return .error fault
                  | .ok lower => return .ok (layer.finite.above lower)

-- A place where a configuration file may be. A required one must be there.
structure Candidate where
  path : SystemText
  required : Bool
deriving DecidableEq, Repr

def fileName : String := "config.toml"

def folderName : String := "textdispatch"

def dottedName : String := ".textdispatch.toml"

def inFolder (folder : String) (names : List String) : Candidate :=
  ⟨.text (names.foldl Path.join folder), false⟩

def underFolder (folder : String) : List Candidate :=
  [inFolder folder [folderName, fileName], inFolder folder [dottedName]]

def systemFolders (environment : Environment) : List String :=
  match environment.find? "XDG_CONFIG_DIRS" with
  | some folders =>
      ((folders.toList.splitOn ':').filter fun folder => !folder.isEmpty).map String.ofList
  | none => ["/etc/xdg"]

private def homeCandidates (home : String) : List Candidate :=
  underFolder (Path.join home ".config") ++ [inFolder home [dottedName]]

-- A variable that is set to nothing names the folder where paths start.
def folderOf (environment : Environment) (name : String) : List String :=
  (environment.find? name).toList

def namedFile (environment : Environment) : List Candidate :=
  match environment.find? "TEXTDISPATCH_CONFIG_PATH" with
  | some path => if path = "" then [] else [⟨.text path, false⟩]
  | none => []

def firstOfEach : (seen : List Candidate) → List Candidate → List Candidate
  | _, [] => []
  | seen, candidate :: rest =>
      if seen.any fun earlier => Path.same earlier.path.shown candidate.path.shown then
        firstOfEach seen rest
      else candidate :: firstOfEach (candidate :: seen) rest

-- The places in the order in which they are tried, each of them once. The last is in the folder
-- in which the program runs.
def candidates (flags : ConfigFlags) (environment : Environment) (here : String) :
    List Candidate :=
  firstOfEach [] <|
    (flags.file.toList.map fun path => ⟨path, true⟩) ++ namedFile environment ++
      (folderOf environment "XDG_CONFIG_HOME").flatMap underFolder ++
      (systemFolders environment).flatMap underFolder ++
      (folderOf environment "APPDATA").flatMap underFolder ++
      (folderOf environment "LOCALAPPDATA").flatMap underFolder ++
      (folderOf environment "HOME").flatMap homeCandidates ++
      [inFolder here [dottedName]]

-- The files that may build on one another are far fewer than this.
def chainLimit : Nat := Nat.pow 2 62

def settingsAt (candidate : Candidate) : Reading (Result (Option Layer)) := do
  match ← regular candidate.path with
  | .error fault => return .error fault
  | .ok none =>
      if candidate.required then return .error (.file candidate.path.shown .absent)
      else return .ok none
  | .ok (some file) => return (← chain chainLimit [] file).map some

-- The first file that is there gives its settings. A fault in a place that need not hold a file
-- counts only if no place gives settings.
def firstLayer : List Candidate → (required others : List ConfigFault) →
    Reading (List ConfigFault × Layer)
  | [], required, others => return (required ++ others, [])
  | candidate :: rest, required, others => do
      match ← settingsAt candidate with
      | .ok (some layer) => return (required, layer)
      | .ok none => firstLayer rest required others
      | .error fault =>
          if candidate.required then firstLayer rest (required ++ [fault]) others
          else firstLayer rest required (others ++ [fault])

-- The settings of files, with all faults on the way to them.
def find (flags : ConfigFlags) (environment : Environment) :
    Reading (List ConfigFault × Layer) := do
  let here := match ← Reading.place (.text ".") with
    | .ok (.folder path) => path.shown
    | _ => ""
  firstLayer (candidates flags environment here) [] []

end ConfigFiles

end Switchboard
