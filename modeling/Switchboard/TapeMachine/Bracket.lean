namespace Switchboard

-- The brackets of a program stand for its loops.
namespace Bracket

-- Walks over the code with the positions of the open brackets, innermost first. A closing bracket
-- with none open is reported at once; an open one is known to be alone only at the end.
def unmatchedFrom : (position : Nat) → (opened : List Nat) → List Char → Option (Char × Nat)
  | _, [], [] => none
  | _, last :: _, [] => some ('[', last)
  | position, opened, '[' :: rest => unmatchedFrom (position + 1) (position :: opened) rest
  | position, [], ']' :: _ => some (']', position)
  | position, _ :: opened, ']' :: rest => unmatchedFrom (position + 1) opened rest
  | position, opened, _ :: rest => unmatchedFrom (position + 1) opened rest

def unmatched? (code : List Char) : Option (Char × Nat) := unmatchedFrom 0 [] code

-- The first closing bracket at or after a position that no bracket opened on the way matches.
def closing? (code : Array Char) (depth position : Nat) : Option Nat :=
  if h : position < code.size then
    if code[position] = ']' then
      match depth with
      | 0 => some position
      | depth + 1 => closing? code depth (position + 1)
    else if code[position] = '[' then closing? code (depth + 1) (position + 1)
    else closing? code depth (position + 1)
  else none
termination_by code.size - position

-- The last opening bracket before a position that no bracket closed on the way matches.
def opening? (code : Array Char) : (depth position : Nat) → Option Nat
  | _, 0 => none
  | depth, position + 1 =>
      if code[position]? = some '[' then
        match depth with
        | 0 => some position
        | depth + 1 => opening? code depth position
      else if code[position]? = some ']' then opening? code (depth + 1) position
      else opening? code depth position

end Bracket

end Switchboard
