namespace Switchboard.Text

-- Bytes read as text in the encoding form UTF-8.
namespace Utf8

-- The bytes that may follow a lead byte, as the range of the second byte and the number of
-- bytes after the lead. The narrow ranges keep out overlong forms, surrogates and code points
-- above the last.
def followers (lead : UInt8) : Option (UInt8 × UInt8 × Nat) :=
  if lead < 0xC2 then none
  else if lead < 0xE0 then some (0x80, 0xBF, 1)
  else if lead = 0xE0 then some (0xA0, 0xBF, 2)
  else if lead = 0xED then some (0x80, 0x9F, 2)
  else if lead < 0xF0 then some (0x80, 0xBF, 2)
  else if lead = 0xF0 then some (0x90, 0xBF, 3)
  else if lead < 0xF4 then some (0x80, 0xBF, 3)
  else if lead = 0xF4 then some (0x80, 0x8F, 3)
  else none

-- The payload of the lead byte, above the six bits of every later byte.
def leadBits (lead : UInt8) (count : Nat) : Nat := lead.toNat % Nat.pow 2 (6 - count)

-- Reads the later bytes of a character. Either all of them stand there, or reading stops before
-- the first that may not, and the count says how many did.
def tails (low high : UInt8) : (count code taken : Nat) → List UInt8 → Option Nat × Nat
  | 0, code, taken, _ => (some code, taken)
  | _ + 1, _, taken, [] => (none, taken)
  | count + 1, code, taken, byte :: rest =>
      if low ≤ byte ∧ byte ≤ high then
        tails 0x80 0xBF count (code * 64 + byte.toNat % 64) (taken + 1) rest
      else (none, taken)

-- The character at the front and the bytes it takes after the lead, or the length of the longest
-- front part that could still have become one.
def step (lead : UInt8) (rest : List UInt8) : Option Char × Nat :=
  if lead < 0x80 then (some (Char.ofNat lead.toNat), 0)
  else match followers lead with
    | none => (none, 0)
    | some (low, high, count) =>
        let (code, taken) := tails low high count (leadBits lead count) 0 rest
        (code.map Char.ofNat, taken)

-- Every maximal ill-formed part becomes one replacement character.
def decodeLossy : List UInt8 → List Char
  | [] => []
  | lead :: rest => (step lead rest).1.getD '\uFFFD' :: decodeLossy (rest.drop (step lead rest).2)
termination_by bytes => bytes.length
decreasing_by simp only [List.length_drop, List.length_cons]; omega

def decode? : List UInt8 → Option (List Char)
  | [] => some []
  | lead :: rest =>
      match (step lead rest).1 with
      | none => none
      | some c => (decode? (rest.drop (step lead rest).2)).map (c :: ·)
termination_by bytes => bytes.length
decreasing_by simp only [List.length_drop, List.length_cons]; omega

def encode (text : String) : List UInt8 := text.toUTF8.data.toList

end Utf8

end Switchboard.Text
