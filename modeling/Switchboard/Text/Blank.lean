import Switchboard.Text.CharClass

namespace Switchboard.Text

-- The property White_Space of Unicode.
def whiteSpace : CharClass where
  ranges := [
    (0x9, 0xD), (0x20, 0x20), (0x85, 0x85), (0xA0, 0xA0), (0x1680, 0x1680), (0x2000, 0x200A),
    (0x2028, 0x2029), (0x202F, 0x202F), (0x205F, 0x205F), (0x3000, 0x3000)]

def isBlank (c : Char) : Bool := whiteSpace.contains c

-- Cuts at every blank, so that neighbouring blanks leave an empty piece between them.
def pieces : List Char → List (List Char)
  | [] => [[]]
  | c :: rest =>
      if isBlank c then [] :: pieces rest
      else match pieces rest with
        | [] => [[c]]
        | piece :: more => (c :: piece) :: more

-- The maximal runs of characters that are not blank.
def words (line : String) : List String :=
  ((pieces line.toList).filter fun piece => !piece.isEmpty).map String.ofList

def trimStart (text : String) : String := String.ofList (text.toList.dropWhile isBlank)

def trimEnd (text : String) : String :=
  String.ofList (text.toList.reverse.dropWhile isBlank).reverse

def trim (text : String) : String := trimStart (trimEnd text)

end Switchboard.Text
