import Switchboard.Proofs.Numeral.Reading

namespace Switchboard

namespace Numeral

variable {narrow wide : Nat} {value : Int}

-- One more bit doubles both ends of a signed range.
theorem Range.contains_signed_of_le (h : narrow ≤ wide)
    (hvalue : (Range.signed narrow).contains value = true) :
    (Range.signed wide).contains value = true := by
  have hhalf : Nat.pow 2 (narrow - 1) ≤ Nat.pow 2 (wide - 1) :=
    Nat.pow_le_pow_right Nat.two_pos (Nat.sub_le_sub_right h 1)
  rw [contains_iff] at hvalue ⊢
  simp only [signed] at hvalue ⊢
  omega

end Numeral

namespace Domain

open Numeral

variable {text : String}

-- A literal keeps its value in every domain that is at least as wide.
theorem parse_of_le {narrow wide : Domain} (h : narrow.width ≤ wide.width) {cell : Int64}
    (hcell : narrow.parse text = some cell) : wide.parse text = some cell := by
  obtain ⟨hspells, hrange⟩ := parse_eq_some_iff.mp hcell
  exact parse_eq_some_iff.mpr ⟨hspells, Range.contains_signed_of_le h hrange⟩

-- A text is refused because it writes no number at all, or one that is out of range.
theorem parse_eq_none_iff {domain : Domain} : domain.parse text = none ↔
    ∀ value, Spells text.toList value → domain.range.contains value = false := by
  rw [Option.eq_none_iff_forall_ne_some]
  constructor
  · intro hnone value hspells
    by_contra hrange
    rw [Bool.not_eq_false] at hrange
    refine hnone (Int64.ofInt value) (parse_eq_some_iff.mpr ?_)
    rw [toInt_ofInt hrange]
    exact ⟨hspells, hrange⟩
  · intro hout cell hcell
    obtain ⟨hspells, hrange⟩ := parse_eq_some_iff.mp hcell
    rw [hout cell.toInt hspells] at hrange
    cases hrange

-- The literals of a domain are the texts that write one of its numbers. No others are read, and
-- every number of the domain is read back from its own decimal text.
theorem parse_reads_literals (domain : Domain) (text : String) :
    let half : Int := Nat.pow 2 (domain.width - 1)
    (∀ cell : Int64, domain.parse text = some cell ↔
      Spells text.toList cell.toInt ∧ -half ≤ cell.toInt ∧ cell.toInt ≤ half - 1) ∧
    (domain.parse text = none ↔
      ∀ value, Spells text.toList value → ¬(-half ≤ value ∧ value ≤ half - 1)) ∧
    ∀ value, -half ≤ value → value ≤ half - 1 →
      ∃ cell : Int64, cell.toInt = value ∧ domain.parse (toString value) = some cell := by
  intro half
  have hrange : ∀ value, domain.range.contains value = true ↔ -half ≤ value ∧ value ≤ half - 1 :=
    fun value => Range.contains_iff
  refine ⟨fun cell => ?_, ?_, fun value hlow hhigh => ?_⟩
  · rw [parse_eq_some_iff, hrange]
  · simp only [parse_eq_none_iff, ← hrange, Bool.not_eq_true]
  · have hcontains := (hrange value).mpr ⟨hlow, hhigh⟩
    have hcell := toInt_ofInt hcontains
    refine ⟨Int64.ofInt value, hcell, ?_⟩
    rw [← hcell] at hcontains
    have hread := parse_toString hcontains
    rwa [hcell] at hread

-- The lowest number of eight bits has no positive counterpart, and zeros in front count for
-- nothing.
theorem parse_reads_literals_lowest :
    Domain.i8.parse "-000128" = some (-128) ∧ Domain.i8.parse "+128" = none ∧
      ∃ cell : Int64, cell.toInt = -128 ∧ Domain.i8.parse (toString (-128 : Int)) = some cell := by
  obtain ⟨hsome, -, hback⟩ := parse_reads_literals .i8 "-000128"
  obtain ⟨-, hnone, -⟩ := parse_reads_literals .i8 "+128"
  have hdigits : ∀ c ∈ ['0', '0', '0', '1', '2', '8'], c.isDigit = true := by simp
  refine ⟨(hsome (-128)).mpr ⟨.minus (List.cons_ne_nil _ _) hdigits, ?_⟩, ?_,
    hback (-128) (by decide) (by decide)⟩
  · decide
  · refine hnone.mpr fun value hspells => ?_
    have hunsigned : ∀ c ∈ ['1', '2', '8'], c.isDigit = true := by simp
    have hplus : Spells "+128".toList 128 := .plus (List.cons_ne_nil _ _) hunsigned
    obtain rfl := hspells.unique hplus
    decide

end Domain

end Switchboard
