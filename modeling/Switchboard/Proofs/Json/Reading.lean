import Switchboard.Json.Document
import Switchboard.Json.Scan
import Switchboard.Proofs.Text.Words
import Mathlib.Data.List.Basic
import Mathlib.Tactic.SplitIfs

namespace Switchboard.Json

open Scan

-- A whole number of any size. Nothing but zero itself starts with a zero.
def natural? (source : List Char) : Option (Nat × List Char) :=
  match source.takeWhile Char.isDigit with
  | [] => none
  | '0' :: _ :: _ => none
  | digits => some (Nat.ofDigitChars 10 digits 0, source.dropWhile Char.isDigit)

def integer? (source : List Char) : Option (Int × List Char) :=
  match source with
  | '-' :: rest => (natural? rest).map fun (value, rest) => (-(value : Int), rest)
  | source => (natural? source).map fun (value, rest) => ((value : Int), rest)

-- The character behind the gaps in front.
def next? (source : List Char) : Option (Char × List Char) :=
  match skipGaps source with
  | [] => none
  | c :: rest => some (c, rest)

section Lists

variable {α : Type} (closing : Char) (item? : List Char → Option (α × List Char))

-- One item or more, with a comma between two of them. A unit of fuel lasts for each.
def itemsUntil? : (fuel : Nat) → List Char → Option (List α × List Char)
  | 0, _ => none
  | fuel + 1, source => do
      let (item, rest) ← item? source
      let (c, rest) ← next? rest
      if c = closing then return ([item], rest)
      else if c = ',' then
        let (items, rest) ← itemsUntil? fuel rest
        return (item :: items, rest)
      else none

def listUntil? (source : List Char) : Option (List α × List Char) := do
  let (c, rest) ← next? source
  if c = closing then return ([], rest) else itemsUntil? closing item? source.length source

end Lists

def member? (value? : List Char → Option (Json × List Char)) (source : List Char) :
    Option ((String × Json) × List Char) := do
  let (c, rest) ← next? source
  if c = '"' then
    let (key, rest) ← (string rest).toOption
    let (c, rest) ← next? rest
    if c = ':' then
      let (value, rest) ← value? rest
      return ((key, value), rest)
    else none
  else none

-- The value at the front, and what follows it. A unit of fuel lasts for each value that holds
-- the next. Numbers with a fraction or an exponent are not read.
def value? : (fuel : Nat) → List Char → Option (Json × List Char)
  | 0, _ => none
  | fuel + 1, source => do
      let (c, rest) ← next? source
      if c = '"' then
        let (value, rest) ← (string rest).toOption
        return (.text value, rest)
      else if c = '[' then
        let (items, rest) ← listUntil? ']' (value? fuel) rest
        return (.array items, rest)
      else if c = '\x7b' then
        let (members, rest) ← listUntil? '\x7d' (member? (value? fuel)) rest
        return (.object members, rest)
      else if c = 'n' then return (.null, ← (word ['u', 'l', 'l'] rest).toOption)
      else if c = 't' then return (.flag true, ← (word ['r', 'u', 'e'] rest).toOption)
      else if c = 'f' then return (.flag false, ← (word ['a', 'l', 's', 'e'] rest).toOption)
      else
        let (value, rest) ← integer? (c :: rest)
        return (.integer value, rest)

-- A text that is one document and nothing else.
def read? (source : String) : Option Json := do
  let (json, rest) ← value? source.toList.length source.toList
  if (skipGaps rest).isEmpty then return json else none

-- Numbers

-- The end of a number is seen by what follows it.
def EndsNumber (rest : List Char) : Prop := ∀ c ∈ rest.head?, c.isDigit = false

theorem head?_toDigits_ne_zero {n : Nat} (hpos : 0 < n) :
    (Nat.toDigits 10 n).head? ≠ some '0' := by
  induction n using Nat.strongRecOn with
  | ind n ih =>
      by_cases hlt : n < 10
      · rw [Nat.toDigits_of_lt_base hlt, List.head?_cons, ne_eq, Option.some_inj,
          Nat.digitChar_eq_zero]
        omega
      · rw [Nat.toDigits_of_base_le (by decide) (by omega), List.head?_append,
          Option.or_of_isSome (by simp [Nat.toDigits_ne_nil])]
        exact ih (n / 10) (by omega) (by omega)

theorem isDigit_toDigits {n : Nat} : ∀ c ∈ Nat.toDigits 10 n, c.isDigit = true := fun _ hc =>
  Nat.isDigit_of_mem_toDigits (by decide) (by decide) hc

theorem natural?_toDigits (n : Nat) {rest : List Char} (hrest : EndsNumber rest) :
    natural? (Nat.toDigits 10 n ++ rest) = some (n, rest) := by
  have htake : (Nat.toDigits 10 n ++ rest).takeWhile Char.isDigit = Nat.toDigits 10 n := by
    rw [List.takeWhile_append_of_pos isDigit_toDigits]
    cases rest with
    | nil => rw [List.takeWhile_nil, List.append_nil]
    | cons c rest => rw [List.takeWhile_cons_of_neg (by simp [hrest c rfl]), List.append_nil]
  have hdrop : (Nat.toDigits 10 n ++ rest).dropWhile Char.isDigit = rest := by
    rw [List.dropWhile_append_of_pos isDigit_toDigits]
    cases rest with
    | nil => rfl
    | cons c rest => rw [List.dropWhile_cons_of_neg (by simp [hrest c rfl])]
  rw [natural?, htake, hdrop]
  split
  · exact absurd ‹_› Nat.toDigits_ne_nil
  · rename_i heq
    rcases Nat.eq_zero_or_pos n with rfl | hpos
    · cases heq
    · exact absurd (by rw [heq]; rfl) (head?_toDigits_ne_zero hpos)
  · rw [Nat.ofDigitChars_ten_toDigits]

theorem toList_toString_int (value : Int) : (toString value).toList =
    if 0 ≤ value then Nat.toDigits 10 value.toNat else '-' :: Nat.toDigits 10 (-value).toNat := by
  rw [Int.toString_eq_repr, Int.repr_eq_if]
  split_ifs
  · rw [Nat.toList_repr]
  · rw [String.toList_append, Nat.toList_repr]
    rfl

theorem integer?_toString (value : Int) {rest : List Char} (hrest : EndsNumber rest) :
    integer? ((toString value).toList ++ rest) = some (value, rest) := by
  rw [toList_toString_int]
  split_ifs with hsign
  · unfold integer?
    split
    · rename_i rest' heq
      cases hdigits : Nat.toDigits 10 value.toNat with
      | nil => exact absurd hdigits Nat.toDigits_ne_nil
      | cons c digits =>
          have hc := isDigit_toDigits c (hdigits ▸ List.mem_cons_self)
          rw [hdigits] at heq
          obtain ⟨rfl, -⟩ := List.cons.inj heq
          exact absurd hc (by decide)
    · rw [natural?_toDigits _ hrest]
      simp only [Option.map_some, Int.toNat_of_nonneg hsign]
  · have hvalue : -(((-value).toNat : Nat) : Int) = value := by omega
    rw [List.cons_append, integer?, natural?_toDigits _ hrest]
    simp only [Option.map_some, hvalue]

-- Strings

theorem hexDigit?_hexDigit {n : Nat} (h : n < 16) :
    Numeral.hexDigit? (hexDigit n) = some n := by
  decide +revert

-- The one character of an escape that is told by its code.
theorem codeEscape_control {c : Char} (h : c.toNat < 0x20) (rest : List Char) :
    codeEscape ('0' :: '0' :: hexDigit (c.toNat / 16) :: hexDigit (c.toNat % 16) :: rest) =
      .ok (c, rest) := by
  have hzero : Numeral.hexDigit? '0' = some 0 := rfl
  have hunit : ((0 * 16 + 0) * 16 + c.toNat / 16) * 16 + c.toNat % 16 = c.toNat := by omega
  have hleading : isLeading c.toNat = false := by
    simp only [isLeading, Bool.and_eq_false_iff, decide_eq_false_iff_not]
    omega
  have htrailing : isTrailing c.toNat = false := by
    simp only [isTrailing, Bool.and_eq_false_iff, decide_eq_false_iff_not]
    omega
  simp only [codeEscape, hexUnit, hzero, hexDigit?_hexDigit (show c.toNat / 16 < 16 by omega),
    hexDigit?_hexDigit (Nat.mod_lt c.toNat (by decide : 0 < 16)), hunit, bind, Except.bind,
    htrailing, hleading, Char.ofNat_toNat]
  rfl

-- A character in its written form is read as that character.
theorem stringBody_escapeChar (fuel : Nat) (c : Char) (rest : List Char) :
    stringBody (fuel + 1) (escapeChar c ++ rest) =
      (stringBody fuel rest).map fun (more, rest) => (c :: more, rest) := by
  have hescape : ∀ {source : List Char}, escape source = .ok (c, rest) →
      stringBody (fuel + 1) ('\\' :: source) =
        (stringBody fuel rest).map fun (more, rest) => (c :: more, rest) := by
    intro source h
    rw [stringBody, if_neg (by decide), if_pos rfl, h]
    simp only [bind, Except.bind]
    rcases stringBody fuel rest with _ | ⟨_, _⟩ <;> rfl
  unfold escapeChar
  split_ifs with hquote hback hform hline hreturn htab hcontrol
  · rcases hquote with rfl | rfl <;> exact hescape rfl
  · subst hback
    exact hescape rfl
  · subst hform
    exact hescape rfl
  · subst hline
    exact hescape rfl
  · subst hreturn
    exact hescape rfl
  · subst htab
    exact hescape rfl
  · refine hescape ?_
    exact codeEscape_control hcontrol rest
  · obtain ⟨hnotQuote, hnotBackslash⟩ := not_or.mp hquote
    rw [List.singleton_append, stringBody, if_neg hnotQuote, if_neg hnotBackslash, if_neg hcontrol]
    rcases stringBody fuel rest with _ | ⟨_, _⟩ <;> rfl

theorem stringBody_escaped (chars : List Char) {fuel : Nat} (hfuel : chars.length < fuel)
    (rest : List Char) :
    stringBody fuel (chars.flatMap escapeChar ++ '"' :: rest) = .ok (chars, rest) := by
  induction chars generalizing fuel with
  | nil =>
      obtain ⟨fuel, rfl⟩ := Nat.exists_eq_add_of_lt hfuel
      rfl
  | cons c chars ih =>
      obtain ⟨fuel, rfl⟩ := Nat.exists_eq_add_one.mpr (Nat.zero_lt_of_lt hfuel)
      rw [List.flatMap_cons, List.append_assoc, stringBody_escapeChar,
        ih (Nat.lt_of_succ_lt_succ hfuel)]
      rfl

theorem escapeChar_ne_nil (c : Char) : escapeChar c ≠ [] := by
  unfold escapeChar
  split_ifs <;> exact List.cons_ne_nil _ _

-- Behind the opening quote.
theorem string_escaped (text : String) (rest : List Char) :
    string (text.toList.flatMap escapeChar ++ '"' :: rest) = .ok (text, rest) := by
  have hlength := Text.length_le_flatMap escapeChar_ne_nil text.toList
  rw [string, stringBody_escaped text.toList (by rw [List.length_append]; omega) rest]
  change Except.ok (String.ofList text.toList, rest) = _
  rw [String.ofList_toList]

end Switchboard.Json
