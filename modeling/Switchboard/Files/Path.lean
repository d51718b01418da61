namespace Switchboard

-- Paths as they are written, without a look at what they lead to.
namespace Path

-- Cuts a path into names. Neighbouring slashes leave an empty name between them, which leads
-- nowhere else.
def names : List Char → List (List Char)
  | [] => [[]]
  | c :: rest =>
      if c = '/' then [] :: names rest
      else match names rest with
        | [] => [[c]]
        | name :: more => (c :: name) :: more

-- The names that lead to another place.
def steps (path : String) : List String :=
  ((names path.toList).map String.ofList).filter fun name => name != "" && name != "."

def isAbsolute (path : String) : Bool := path.toList.head? == some '/'

-- The name of what stands at the end, unless the path does not say it.
def lastName? (path : String) : Option String :=
  match (steps path).getLast? with
  | some name => if name = ".." then none else some name
  | none => none

-- What follows the last dot in the last name. A dot at the very front is only part of the name.
def suffix? (path : String) : Option String := do
  let name := (← lastName? path).toList
  let back := name.reverse
  let suffix := back.takeWhile (· != '.')
  if name.length ≤ suffix.length + 1 then none
  else return String.ofList suffix.reverse

def join (folder name : String) : String :=
  if folder = "" ∨ folder.endsWith "/" then folder ++ name else folder ++ "/" ++ name

private def startsHere (path : String) : Bool := (names path.toList).head? == some ['.']

-- Two spellings of one path.
def same (first second : String) : Bool :=
  isAbsolute first == isAbsolute second && startsHere first == startsHere second &&
    steps first == steps second

end Path

end Switchboard
