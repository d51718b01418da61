import Switchboard.StackMachine
import Mathlib.Data.List.Basic
import Mathlib.Tactic.SplitIfs

namespace Switchboard

-- A stack of whole numbers, the top first, and what was printed. Nothing of it is about tables,
-- faults that are left behind, or cells.
structure Slate where
  stack : List Int
  output : String

namespace Slate

-- What 64 bits keep of a number.
def wrap (value : Int) : Int := value.bmod 18446744073709551616

-- How many numbers have to be on the stack before a word.
def needed : String → Nat
  | "+" | "-" | "*" | "/" | "%" | "swap" => 2
  | "." | "drop" | "dup" => 1
  | _ => 0

-- The words that make one number of two, the right one of which is on top. Division goes toward
-- zero.
def arithmetic? : String → Option (Int → Int → Int)
  | "+" => some fun left right => left + right
  | "-" => some fun left right => left - right
  | "*" => some fun left right => left * right
  | "/" => some Int.tdiv
  | "%" => some Int.tmod
  | _ => none

-- What a word does, or why it cannot. A word without a meaning of its own has to be a number of
-- the domain.
def apply (domain : Domain) (s : Slate) (word : String) : Except StackFault Slate :=
  if s.stack.length < needed word then
    .error (.stackUnderflow word (needed word) s.stack.length)
  else match arithmetic? word, s.stack with
    | some op, right :: left :: rest =>
        if (word = "/" ∨ word = "%") ∧ right = 0 then .error (.divisionByZero word)
        else .ok { s with stack := wrap (op left right) :: rest }
    | _, stack =>
        match word, stack with
        | ".", top :: rest => .ok ⟨rest, s.output ++ toString top ++ " "⟩
        | "drop", _ :: rest => .ok { s with stack := rest }
        | "dup", top :: rest => .ok { s with stack := top :: top :: rest }
        | "swap", top :: next :: rest => .ok { s with stack := next :: top :: rest }
        | "deep", stack =>
            .ok { s with stack := (min stack.length StackMachine.largestCell : Nat) :: stack }
        | word, stack =>
            match domain.parse word with
            | some value => .ok { s with stack := value.toInt :: stack }
            | none => .error (.unroutable (.unknownToken word))

-- All words but the numbers.
def vocabulary : List String := ["+", "-", "*", "/", "%", ".", "drop", "dup", "deep", "swap"]

variable {domain : Domain} {s : Slate} {word : String}

theorem apply_of_length_lt (h : s.stack.length < needed word) :
    s.apply domain word = .error (.stackUnderflow word (needed word) s.stack.length) := by
  rw [apply, if_pos h]

theorem apply_arithmetic {op : Int → Int → Int} (hop : arithmetic? word = some op)
    (hneeded : needed word = 2) {left right : Int} {rest : List Int} {output : String} :
    apply domain ⟨right :: left :: rest, output⟩ word =
      if (word = "/" ∨ word = "%") ∧ right = 0 then .error (.divisionByZero word)
      else .ok ⟨wrap (op left right) :: rest, output⟩ := by
  have hdeep : ¬(right :: left :: rest).length < needed word := by
    rw [hneeded]
    simp
  simp only [apply, hdeep, if_false, hop]

theorem apply_number (h : word ∉ vocabulary) :
    s.apply domain word =
      match domain.parse word with
      | some value => .ok { s with stack := value.toInt :: s.stack }
      | none => .error (.unroutable (.unknownToken word)) := by
  simp only [vocabulary, List.mem_cons, List.not_mem_nil, or_false, not_or] at h
  obtain ⟨hplus, hminus, htimes, hdivide, hremainder, hprint, hdrop, hdup, hdeep, hswap⟩ := h
  have hneeded : needed word = 0 := by
    unfold needed
    split <;> simp_all
  have hop : arithmetic? word = none := by
    unfold arithmetic?
    split <;> simp_all
  unfold apply
  rw [hneeded, if_neg (Nat.not_lt_zero _), hop]
  simp only
  split <;> simp_all

-- All that a word can come to, each with what the stack must hold for it.
inductive Step (domain : Domain) (s : Slate) (word : String) : Except StackFault Slate → Prop where
  | short (h : s.stack.length < needed word) :
      Step domain s word (.error (.stackUnderflow word (needed word) s.stack.length))
  | operated {op : Int → Int → Int} {left right : Int} {rest : List Int}
      (hop : arithmetic? word = some op) (hstack : s.stack = right :: left :: rest)
      (hright : ¬((word = "/" ∨ word = "%") ∧ right = 0)) :
      Step domain s word (.ok { s with stack := wrap (op left right) :: rest })
  | divided {left : Int} {rest : List Int} (hword : word = "/" ∨ word = "%")
      (hstack : s.stack = 0 :: left :: rest) : Step domain s word (.error (.divisionByZero word))
  | printed {top : Int} {rest : List Int} (hword : word = ".") (hstack : s.stack = top :: rest) :
      Step domain s word (.ok ⟨rest, s.output ++ toString top ++ " "⟩)
  | dropped {top : Int} {rest : List Int} (hword : word = "drop") (hstack : s.stack = top :: rest) :
      Step domain s word (.ok { s with stack := rest })
  | doubled {top : Int} {rest : List Int} (hword : word = "dup") (hstack : s.stack = top :: rest) :
      Step domain s word (.ok { s with stack := top :: top :: rest })
  | counted (hword : word = "deep") :
      Step domain s word (.ok { s with
        stack := (min s.stack.length StackMachine.largestCell : Nat) :: s.stack })
  | swapped {top next : Int} {rest : List Int} (hword : word = "swap")
      (hstack : s.stack = top :: next :: rest) :
      Step domain s word (.ok { s with stack := next :: top :: rest })
  | number {value : Int64} (hword : word ∉ vocabulary) (hvalue : domain.parse word = some value) :
      Step domain s word (.ok { s with stack := value.toInt :: s.stack })
  | unknown (hword : word ∉ vocabulary) (hvalue : domain.parse word = none) :
      Step domain s word (.error (.unroutable (.unknownToken word)))

theorem step_arithmetic {op : Int → Int → Int} (hop : arithmetic? word = some op)
    (hneeded : needed word = 2) (henough : ¬s.stack.length < needed word) :
    s.Step domain word (s.apply domain word) := by
  obtain ⟨stack, output⟩ := s
  match stack with
  | right :: left :: rest =>
      rw [apply_arithmetic hop hneeded]
      split_ifs with hzero
      · obtain ⟨hword, rfl⟩ := hzero
        exact .divided hword rfl
      · exact .operated hop rfl hzero
  | [single] => simp [hneeded] at henough
  | [] => simp [hneeded] at henough

theorem step_apply (domain : Domain) (s : Slate) (word : String) :
    s.Step domain word (s.apply domain word) := by
  by_cases hshort : s.stack.length < needed word
  · rw [apply_of_length_lt hshort]
    exact .short hshort
  · by_cases hword : word ∈ vocabulary
    · simp only [vocabulary, List.mem_cons, List.not_mem_nil, or_false] at hword
      rcases hword with rfl | rfl | rfl | rfl | rfl | rfl | rfl | rfl | rfl | rfl
      · exact step_arithmetic rfl rfl hshort
      · exact step_arithmetic rfl rfl hshort
      · exact step_arithmetic rfl rfl hshort
      · exact step_arithmetic rfl rfl hshort
      · exact step_arithmetic rfl rfl hshort
      · obtain ⟨_ | ⟨top, rest⟩, output⟩ := s
        · exact absurd Nat.zero_lt_one hshort
        · exact .printed rfl rfl
      · obtain ⟨_ | ⟨top, rest⟩, output⟩ := s
        · exact absurd Nat.zero_lt_one hshort
        · exact .dropped rfl rfl
      · obtain ⟨_ | ⟨top, rest⟩, output⟩ := s
        · exact absurd Nat.zero_lt_one hshort
        · exact .doubled rfl rfl
      · exact .counted rfl
      · obtain ⟨_ | ⟨top, _ | ⟨next, rest⟩⟩, output⟩ := s
        · exact absurd Nat.zero_lt_two hshort
        · exact absurd Nat.one_lt_two hshort
        · exact .swapped rfl rfl
    · rw [apply_number hword]
      cases hvalue : domain.parse word with
      | some value => exact .number hword hvalue
      | none => exact .unknown hword hvalue

end Slate

end Switchboard
