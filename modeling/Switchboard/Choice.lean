namespace Switchboard

-- A setting or argument that is one of a short list of values, each with a name of its own.
-- Messages list the names in the order of `all`.
class Choice (α : Type) where
  all : List α
  name : α → String

namespace Choice

variable {α : Type} [Choice α]

def names (α : Type) [Choice α] : List String := (all : List α).map name

-- The spelling must be exactly the name.
def ofName? (text : String) : Option α := all.find? fun value => name value == text

-- Letters of the English alphabet may stand in either case.
def foldCase (text : String) : List Char := text.toList.map Char.toLower

def ofNameAnyCase? (text : String) : Option α :=
  all.find? fun value => foldCase (name value) == foldCase text

end Choice

end Switchboard
