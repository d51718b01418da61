import Switchboard.SystemText

namespace Switchboard.CommandLine

-- How an item is written. Two dashes alone end the options, and one dash alone is a plain value.
-- After a single dash come letters, and where these stop being text the bytes that are left.
inductive Spelling where
  | separator
  | long (name : SystemText) (attached : Option SystemText)
  | short (letters : List Char) (tail : List UInt8)
  | plain
deriving DecidableEq, Repr

-- Cuts at the first mark, which belongs to neither part.
def cutAt {α : Type} [BEq α] (mark : α) : List α → List α × Option (List α)
  | [] => ([], none)
  | x :: rest =>
      if x == mark then ([], some rest)
      else
        let (before, after) := cutAt mark rest
        (x :: before, after)

-- The longest front part that is text, and the rest.
def readable : List UInt8 → List Char × List UInt8
  | [] => ([], [])
  | lead :: rest =>
      match Text.Utf8.step lead rest with
      | (none, _) => ([], lead :: rest)
      | (some c, taken) =>
          let (front, back) := readable (rest.drop taken)
          (c :: front, back)
termination_by bytes => bytes.length
decreasing_by simp only [List.length_drop, List.length_cons]; omega

private def dash : UInt8 := 0x2D

def Spelling.ofItem : SystemText → Spelling
  | .text value =>
      match value.toList with
      | '-' :: '-' :: [] => .separator
      | '-' :: '-' :: rest =>
          let (name, attached) := cutAt '=' rest
          .long (.text (String.ofList name)) (attached.map fun value => .text (String.ofList value))
      | '-' :: c :: rest => .short (c :: rest) []
      | _ => .plain
  | .raw bytes =>
      match bytes with
      | a :: b :: rest =>
          if a = dash ∧ b = dash then
            let (name, attached) := cutAt (0x3D : UInt8) rest
            .long (.ofBytes name) (attached.map .ofBytes)
          else if a = dash then
            let (letters, tail) := readable (b :: rest)
            .short letters tail
          else .plain
      | _ => .plain

end Switchboard.CommandLine
