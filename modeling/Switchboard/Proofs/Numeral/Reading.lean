import Switchboard.Domain
import Switchboard.Proofs.Json.Reading
import Switchboard.Proofs.Text.Words

namespace Switchboard

namespace Numeral

-- A text that writes a number: at least one digit, with a sign in front or without one. Zeros in
-- front count for nothing.
inductive Spells : List Char → Int → Prop where
  | bare {ds : List Char} (hne : ds ≠ []) (hdigits : ∀ c ∈ ds, c.isDigit = true) :
      Spells ds (Nat.ofDigitChars 10 ds 0)
  | plus {ds : List Char} (hne : ds ≠ []) (hdigits : ∀ c ∈ ds, c.isDigit = true) :
      Spells ('+' :: ds) (Nat.ofDigitChars 10 ds 0)
  | minus {ds : List Char} (hne : ds ≠ []) (hdigits : ∀ c ∈ ds, c.isDigit = true) :
      Spells ('-' :: ds) (-(Nat.ofDigitChars 10 ds 0 : Nat))

theorem Range.contains_iff {range : Range} {value : Int} :
    range.contains value = true ↔ range.low ≤ value ∧ value ≤ range.high := by
  simp [contains]

theorem le_ofDigitChars (ds : List Char) (n : Nat) : n ≤ Nat.ofDigitChars 10 ds n := by
  induction ds generalizing n with
  | nil => simp
  | cons c ds ih =>
      have hrest := ih (10 * n + (c.toNat - '0'.toNat))
      rw [Nat.ofDigitChars_cons]
      omega

theorem digitValue_of_isDigit {c : Char} (hdigit : c.isDigit = true) :
    digitValue c = (c.toNat - '0'.toNat : Nat) := by
  have hlow : '0'.toNat ≤ c.toNat := (Char.isDigit_iff_toNat.mp hdigit).1
  have hzero : '0'.toNat = 48 := rfl
  simp only [digitValue]
  omega

section Digits

variable {range : Range} {sign value : Int} (hsign : sign = 1 ∨ sign = -1)
  (hlow : range.low ≤ 0) (hhigh : 0 ≤ range.high)

include hsign hlow hhigh

-- More digits lead further away from zero, so the first that leads out of the range decides as the
-- whole number does.
theorem accumulate_eq_ok_iff (ds : List Char) {n : Nat} (hn : range.contains (sign * n) = true) :
    accumulate range sign (sign * n) ds = .ok value ↔
      (∀ c ∈ ds, c.isDigit = true) ∧ value = sign * (Nat.ofDigitChars 10 ds n : Nat) ∧
        range.contains value = true := by
  induction ds generalizing n with
  | nil =>
      simp only [accumulate, Except.ok.injEq, List.not_mem_nil, false_implies, implies_true,
        true_and, Nat.ofDigitChars_nil]
      constructor
      · rintro rfl
        exact ⟨rfl, hn⟩
      · rintro ⟨rfl, -⟩
        rfl
  | cons c ds ih =>
      by_cases hdigit : c.isDigit = true
      · have hnext : sign * n * 10 + sign * digitValue c =
            sign * (10 * n + (c.toNat - '0'.toNat) : Nat) := by
          rw [digitValue_of_isDigit hdigit]
          rcases hsign with rfl | rfl <;> omega
        have hgrows := le_ofDigitChars ds (10 * n + (c.toNat - '0'.toNat))
        have hall : (∀ other ∈ c :: ds, other.isDigit = true) ↔
            ∀ other ∈ ds, other.isDigit = true := by simp [hdigit]
        rw [accumulate, if_neg (by simp [hdigit]), hnext, hall, Nat.ofDigitChars_cons]
        generalize 10 * n + (c.toNat - '0'.toNat) = next at hgrows ⊢
        by_cases hlarge : range.high < sign * (next : Int)
        · simp only [hlarge, if_true, reduceCtorEq, false_iff, Range.contains_iff]
          rintro ⟨-, rfl, -, hle⟩
          rcases hsign with rfl | rfl <;> omega
        · by_cases hsmall : sign * (next : Int) < range.low
          · simp only [hlarge, if_false, hsmall, if_true, reduceCtorEq, false_iff,
              Range.contains_iff]
            rintro ⟨-, rfl, hge, -⟩
            rcases hsign with rfl | rfl <;> omega
          · simp only [hlarge, if_false, hsmall]
            refine ih ?_
            rw [Range.contains_iff]
            omega
      · rw [accumulate, if_pos (by simp [hdigit])]
        simp only [reduceCtorEq, false_iff]
        rintro ⟨hall, -⟩
        exact hdigit (hall c List.mem_cons_self)

theorem digits_eq_ok_iff (ds : List Char) :
    digits range sign ds = .ok value ↔
      ds ≠ [] ∧ (∀ c ∈ ds, c.isDigit = true) ∧
        value = sign * (Nat.ofDigitChars 10 ds 0 : Nat) ∧ range.contains value = true := by
  cases ds with
  | nil => simp [digits]
  | cons c ds =>
      have hzero : range.contains (sign * (0 : Nat)) = true := by
        rw [Range.contains_iff]
        omega
      have haccumulate : accumulate range sign (sign * (0 : Nat)) (c :: ds) = .ok value ↔ _ :=
        accumulate_eq_ok_iff hsign hlow hhigh (c :: ds) hzero
      simpa [digits] using haccumulate

end Digits

-- What is read of a text is the number that it writes, if that is in the range.
theorem read_eq_ok_iff {range : Range} (hlow : range.low < 0) (hhigh : 0 ≤ range.high)
    {text : List Char} {value : Int} :
    read range text = .ok value ↔ Spells text value ∧ range.contains value = true := by
  have hplus : ∀ ds, digits range 1 ds = .ok value ↔ _ :=
    digits_eq_ok_iff (.inl rfl) (Int.le_of_lt hlow) hhigh
  have hminus : ∀ ds, digits range (-1) ds = .ok value ↔ _ :=
    digits_eq_ok_iff (.inr rfl) (Int.le_of_lt hlow) hhigh
  constructor
  · intro hread
    unfold read at hread
    split at hread
    · cases hread
    · obtain ⟨hne, hdigits, rfl, hrange⟩ := (hplus _).mp hread
      rw [Int.one_mul] at hrange ⊢
      exact ⟨.plus hne hdigits, hrange⟩
    · rw [if_pos hlow] at hread
      obtain ⟨hne, hdigits, rfl, hrange⟩ := (hminus _).mp hread
      rw [Int.neg_one_mul] at hrange ⊢
      exact ⟨.minus hne hdigits, hrange⟩
    · obtain ⟨hne, hdigits, rfl, hrange⟩ := (hplus _).mp hread
      rw [Int.one_mul] at hrange ⊢
      exact ⟨.bare hne hdigits, hrange⟩
  · rintro ⟨hspells, hrange⟩
    cases hspells with
    | bare hne hdigits =>
        have hread : read range text = digits range 1 text := by
          unfold read
          split
          · exact absurd rfl hne
          · exact absurd (hdigits '+' List.mem_cons_self) (by decide)
          · exact absurd (hdigits '-' List.mem_cons_self) (by decide)
          · rfl
        rw [hread]
        exact (hplus text).mpr ⟨hne, hdigits, (Int.one_mul _).symm, hrange⟩
    | plus hne hdigits =>
        exact (hplus _).mpr ⟨hne, hdigits, (Int.one_mul _).symm, hrange⟩
    | minus hne hdigits =>
        rw [read, if_pos hlow]
        exact (hminus _).mpr ⟨hne, hdigits, (Int.neg_one_mul _).symm, hrange⟩

theorem spells_toString (value : Int) : Spells (toString value).toList value := by
  rw [Json.toList_toString_int]
  by_cases hvalue : 0 ≤ value
  · have hspells := Spells.bare (Nat.toDigits_ne_nil (b := 10) (n := value.toNat))
      Json.isDigit_toDigits
    rw [Nat.ofDigitChars_ten_toDigits, Int.toNat_of_nonneg hvalue] at hspells
    rw [if_pos hvalue]
    exact hspells
  · have hspells := Spells.minus (Nat.toDigits_ne_nil (b := 10) (n := (-value).toNat))
      Json.isDigit_toDigits
    rw [Nat.ofDigitChars_ten_toDigits, Int.toNat_of_nonneg (by omega), Int.neg_neg] at hspells
    rw [if_neg hvalue]
    exact hspells

theorem Spells.unique {text : List Char} {value other : Int} (h : Spells text value)
    (hother : Spells text other) : value = other := by
  cases h with
  | bare hne hdigits =>
      cases hother with
      | bare => rfl
      | plus => exact absurd (hdigits '+' List.mem_cons_self) (by decide)
      | minus => exact absurd (hdigits '-' List.mem_cons_self) (by decide)
  | plus =>
      cases hother with
      | bare _ hdigits => exact absurd (hdigits '+' List.mem_cons_self) (by decide)
      | plus => rfl
  | minus =>
      cases hother with
      | bare _ hdigits => exact absurd (hdigits '-' List.mem_cons_self) (by decide)
      | minus => rfl

theorem Spells.ne_nil {text : List Char} {value : Int} (h : Spells text value) : text ≠ [] := by
  cases h with
  | bare hne => exact hne
  | plus => simp
  | minus => simp

theorem Spells.not_blank {text : List Char} {value : Int} (h : Spells text value) :
    ∀ c ∈ text, Text.isBlank c = false := by
  have hdigit : ∀ c : Char, c.isDigit = true → Text.isBlank c = false := by
    intro c hdigit
    obtain ⟨hlow, hhigh⟩ : 48 ≤ c.toNat ∧ c.toNat ≤ 57 := Char.isDigit_iff_toNat.mp hdigit
    exact Text.isBlank_eq_false (by omega) (by omega)
  cases h with
  | bare _ hdigits => exact fun c hmem => hdigit c (hdigits c hmem)
  | plus _ hdigits =>
      intro c hmem
      rcases List.mem_cons.mp hmem with rfl | hmem
      · decide
      · exact hdigit c (hdigits c hmem)
  | minus _ hdigits =>
      intro c hmem
      rcases List.mem_cons.mp hmem with rfl | hmem
      · decide
      · exact hdigit c (hdigits c hmem)

end Numeral

namespace Domain

open Numeral

variable {domain : Domain} {text : String} {value : Int} {cell : Int64}

theorem range_within (domain : Domain) (h : domain.range.contains value = true) :
    -9223372036854775808 ≤ value ∧ value ≤ 9223372036854775807 := by
  rw [Range.contains_iff] at h
  cases domain <;> simp [range, width, Range.signed] at h <;> omega

theorem toInt_ofInt (h : domain.range.contains value = true) :
    (Int64.ofInt value).toInt = value := by
  obtain ⟨hlow, hhigh⟩ := domain.range_within h
  exact Int64.toInt_ofInt_of_le (by omega) (by omega)

-- A literal of a domain is a text that writes one of its numbers.
theorem parse_eq_some_iff : domain.parse text = some cell ↔
    Spells text.toList cell.toInt ∧ domain.range.contains cell.toInt = true := by
  have hlow : domain.range.low < 0 := by cases domain <;> decide
  have hhigh : 0 ≤ domain.range.high := by cases domain <;> decide
  rw [← read_eq_ok_iff hlow hhigh, parse]
  cases hread : read domain.range text.toList with
  | error fault => simp
  | ok value =>
      obtain ⟨-, hrange⟩ := (read_eq_ok_iff hlow hhigh).mp hread
      simp only [Option.some.injEq, Except.ok.injEq]
      constructor
      · rintro rfl
        exact (toInt_ofInt hrange).symm
      · rintro rfl
        exact Int64.ofInt_toInt cell

theorem parse_toString (h : domain.range.contains cell.toInt = true) :
    domain.parse (toString cell.toInt) = some cell :=
  parse_eq_some_iff.mpr ⟨spells_toString cell.toInt, h⟩

theorem parse_toString_eq_none (h : domain.range.contains cell.toInt = false) :
    domain.parse (toString cell.toInt) = none := by
  rw [Option.eq_none_iff_forall_ne_some]
  intro other hother
  obtain ⟨hspells, hrange⟩ := parse_eq_some_iff.mp hother
  rw [hspells.unique (spells_toString cell.toInt), h] at hrange
  cases hrange

-- Every cell is a number of the widest domain.
theorem contains_i64 (cell : Int64) : Domain.i64.range.contains cell.toInt = true := by
  have hlow := cell.le_toInt
  have hhigh := cell.toInt_lt
  rw [Range.contains_iff]
  simp [range, width, Range.signed]
  omega

end Domain

end Switchboard
