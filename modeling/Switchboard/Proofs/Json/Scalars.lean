import Switchboard.Proofs.Json.RoundTrip
import Switchboard.Proofs.Numeral.Reading

namespace Switchboard.Json

open Scan

-- The texts of values that hold no other value. A text that nobody reads need not be one: an
-- escape may stand for half of a character.

inductive Whole : List Char → Prop where
  | zero : Whole ['0']
  | digits {c : Char} {ds : List Char} (hc : c.isDigit = true) (hne : c ≠ '0')
      (hds : ∀ d ∈ ds, d.isDigit = true) : Whole (c :: ds)

inductive Fraction : List Char → Prop where
  | none : Fraction []
  | point {d : Char} {ds : List Char} (hds : ∀ c ∈ d :: ds, c.isDigit = true) :
      Fraction ('.' :: d :: ds)

inductive Exponent : List Char → Prop where
  | none : Exponent []
  | power {e : Char} {sign : List Char} {d : Char} {ds : List Char} (he : e = 'e' ∨ e = 'E')
      (hsign : sign ∈ [[], ['+'], ['-']]) (hds : ∀ c ∈ d :: ds, c.isDigit = true) :
      Exponent (e :: sign ++ d :: ds)

inductive StringBody : List Char → Prop where
  | nil : StringBody []
  | plain {c : Char} {body : List Char} (hquote : c ≠ '"') (hback : c ≠ '\\')
      (hcontrol : 0x20 ≤ c.toNat) (h : StringBody body) : StringBody (c :: body)
  | short {c : Char} {body : List Char} (hc : c ∈ ['"', '\\', '/', 'b', 'f', 'n', 'r', 't'])
      (h : StringBody body) : StringBody ('\\' :: c :: body)
  | code {first second third fourth : Char} {body : List Char}
      (hhex : ∀ c ∈ [first, second, third, fourth], c ∈ "0123456789abcdefABCDEF".toList)
      (h : StringBody body) : StringBody ('\\' :: 'u' :: first :: second :: third :: fourth :: body)

inductive Scalar : List Char → Prop where
  | null : Scalar (write .null)
  | flag (value : Bool) : Scalar (write (.flag value))
  | number {sign whole fraction exponent : List Char} (hsign : sign = [] ∨ sign = ['-'])
      (hwhole : Whole whole) (hfraction : Fraction fraction) (hexponent : Exponent exponent) :
      Scalar (sign ++ whole ++ fraction ++ exponent)
  | string {body : List Char} (h : StringBody body) : Scalar ('"' :: body ++ ['"'])

-- A value ends before a gap, before a comma, and before the end of what it stands in.
def EndsValue (rest : List Char) : Prop :=
  ∀ c ∈ rest.head?, isGap c = true ∨ c = ',' ∨ c = ']' ∨ c = '\x7d'

theorem ne_of_isDigit {c d : Char} (hc : c.isDigit = true) (hd : d.isDigit = false) : c ≠ d := by
  rintro rfl
  exact absurd (hd.symm.trans hc) (by decide)

namespace EndsValue

variable {rest : List Char}

theorem cons {c : Char} (hc : isGap c = true ∨ c = ',' ∨ c = ']' ∨ c = '\x7d')
    (rest : List Char) : EndsValue (c :: rest) := fun _ hfirst => Option.some.inj hfirst ▸ hc

theorem endsNumber (h : EndsValue rest) : EndsNumber rest := by
  intro c hc
  rw [← Bool.not_eq_true]
  intro hdigit
  have hstarts := starts_of_isDigit hdigit
  rcases h c hc with hgap | rfl | rfl | rfl
  · exact absurd (hstarts.gap.symm.trans hgap) (by decide)
  · exact absurd hdigit (by decide)
  · exact absurd hdigit (by decide)
  · exact absurd hdigit (by decide)

theorem continues {c : Char} (h : EndsValue (c :: rest)) : c ≠ '.' ∧ ¬(c = 'e' ∨ c = 'E') := by
  refine ⟨?_, ?_⟩
  · rintro rfl
    exact absurd (h '.' rfl) (by decide)
  · rintro (rfl | rfl)
    · exact absurd (h 'e' rfl) (by decide)
    · exact absurd (h 'E' rfl) (by decide)

end EndsValue

section Numbers

variable {sign whole fraction power rest : List Char} {d : Char} {ds : List Char}

theorem endsNumber_nil : EndsNumber [] := by
  intro c hc
  cases hc

theorem endsNumber_cons {c : Char} (hc : c.isDigit = false) (rest : List Char) :
    EndsNumber (c :: rest) := fun _ hfirst => Option.some.inj hfirst ▸ hc

theorem EndsNumber.head (h : EndsNumber rest) : ¬rest.head?.any Char.isDigit = true := by
  cases hfirst : rest.head? with
  | none => simp
  | some c => simp [h c hfirst]

theorem skipDigits_append (hds : ∀ c ∈ ds, c.isDigit = true) (hrest : EndsNumber rest) :
    skipDigits (ds ++ rest) = rest := by
  rw [skipDigits, List.dropWhile_append_of_pos hds]
  cases rest with
  | nil => rfl
  | cons c rest => rw [List.dropWhile_cons_of_neg (by simp [hrest c rfl])]

theorem skipExponent_append (hsign : sign ∈ [[], ['+'], ['-']])
    (hds : ∀ c ∈ d :: ds, c.isDigit = true) (hrest : EndsNumber rest) :
    skipExponent (sign ++ d :: ds ++ rest) = .ok rest := by
  obtain ⟨hd, hds⟩ := List.forall_mem_cons.mp hds
  have hdigits : (if d.isDigit = true then Except.ok (skipDigits (ds ++ rest))
      else failed .badNumber (ds ++ rest)) = .ok rest := by
    rw [if_pos hd, skipDigits_append hds hrest]
  simp only [List.mem_cons, List.not_mem_nil, or_false] at hsign
  rcases hsign with rfl | rfl | rfl
  · unfold skipExponent
    split
    · exact absurd (List.cons.inj ‹_›).1 (ne_of_isDigit hd rfl)
    · exact absurd (List.cons.inj ‹_›).1 (ne_of_isDigit hd rfl)
    · exact hdigits
  · exact hdigits
  · exact hdigits

-- What stands behind the digits of a number is no further digit, and no fraction starts there.
theorem power_cases (hpower : Exponent power) (hrest : EndsValue rest) :
    (power ++ rest = [] ∧ rest = []) ∨
    ∃ c more, power ++ rest = c :: more ∧ c ≠ '.' ∧ c.isDigit = false ∧
      (if c = 'e' ∨ c = 'E' then skipExponent more else .ok (c :: more)) = .ok rest := by
  cases hpower with
  | none =>
      cases rest with
      | nil => exact .inl ⟨rfl, rfl⟩
      | cons c rest =>
          exact .inr ⟨c, rest, rfl, hrest.continues.1, hrest.endsNumber c rfl,
            if_neg hrest.continues.2⟩
  | power he hsign hds =>
      refine .inr ⟨_, _, List.cons_append, ?_, ?_, ?_⟩
      · rcases he with rfl | rfl <;> decide
      · rcases he with rfl | rfl <;> rfl
      · rw [if_pos he]
        exact skipExponent_append hsign hds hrest.endsNumber

theorem skipNumberTail_append (hfraction : Fraction fraction) (hpower : Exponent power)
    (hrest : EndsValue rest) :
    EndsNumber (fraction ++ power ++ rest) ∧
      skipNumberTail (fraction ++ power ++ rest) = .ok rest := by
  cases hfraction with
  | none =>
      rw [List.nil_append]
      rcases power_cases hpower hrest with ⟨hnil, rfl⟩ | ⟨c, more, hcons, hpoint, hdigit, hskip⟩
      · rw [hnil]
        exact ⟨endsNumber_nil, rfl⟩
      · rw [hcons, skipNumberTail, if_neg hpoint]
        exact ⟨endsNumber_cons hdigit more, hskip⟩
  | point hds =>
      refine ⟨endsNumber_cons rfl _, ?_⟩
      have hfirst := hds _ List.mem_cons_self
      rw [List.append_assoc, List.cons_append, skipNumberTail, if_pos rfl, skipFraction,
        if_pos (by simpa using hfirst)]
      rcases power_cases hpower hrest with ⟨hnil, rfl⟩ | ⟨c, more, hcons, hpoint, hdigit, hskip⟩
      · rw [hnil, skipDigits_append hds endsNumber_nil]
      · rw [hcons, skipDigits_append hds (endsNumber_cons hdigit more)]
        exact hskip

theorem skipNumber_append (hwhole : Whole whole) (hfraction : Fraction fraction)
    (hpower : Exponent power) (hrest : EndsValue rest) :
    skipNumber (whole ++ fraction ++ power ++ rest) = .ok rest := by
  obtain ⟨hends, hskip⟩ := skipNumberTail_append hfraction hpower hrest
  rw [List.append_assoc whole, List.append_assoc whole]
  cases hwhole with
  | zero =>
      rw [List.singleton_append, skipNumber, if_pos rfl, if_neg hends.head]
      exact hskip
  | digits hc hne hds =>
      rw [List.cons_append, skipNumber, if_neg hne, if_pos hc, skipDigits_append hds hends]
      exact hskip

theorem fits_of_lt {n : Nat} (h : n < 18446744073709551616) : fits n = true := by
  have hbounds : (0 : Int) ≤ n ∧ (n : Int) ≤ 18446744073709551615 := by omega
  exact decide_eq_true hbounds

-- The number so far only grows, so it fits at every digit if it fits at the last one.
theorem wholeDigits_append (hds : ∀ c ∈ ds, c.isDigit = true) {n : Nat}
    (hfits : Nat.ofDigitChars 10 ds n < 18446744073709551616) (hrest : EndsNumber rest) :
    wholeDigits n (ds ++ rest) = (Nat.ofDigitChars 10 ds n, false, rest) := by
  induction ds generalizing n with
  | nil =>
      rw [Nat.ofDigitChars_nil, List.nil_append]
      cases rest with
      | nil => rfl
      | cons c rest =>
          have hc := hrest c rfl
          rw [wholeDigits, if_neg (by simp [hc])]
  | cons c ds ih =>
      obtain ⟨hc, hds⟩ := List.forall_mem_cons.mp hds
      have hnext : n * 10 + digitValue c = 10 * n + (c.toNat - '0'.toNat) := by
        have hzero : '0'.toNat = 48 := rfl
        simp only [digitValue]
        omega
      rw [Nat.ofDigitChars_cons] at hfits ⊢
      have hgrows := Numeral.le_ofDigitChars ds (10 * n + (c.toNat - '0'.toNat))
      rw [List.cons_append, wholeDigits, if_pos hc, hnext, if_pos (fits_of_lt (by omega))]
      exact ih hds hfits

theorem number_toDigits {n : Nat} (hfits : n < 18446744073709551616) (hrest : EndsValue rest) :
    number false (Nat.toDigits 10 n ++ rest) = .ok (.integer n, rest) := by
  have htail : numberTail false n rest = .ok (.integer n, rest) := by
    cases rest with
    | nil => rfl
    | cons c rest =>
        rw [numberTail, if_neg hrest.continues.1, if_neg hrest.continues.2]
        rfl
  rcases Nat.eq_zero_or_pos n with rfl | hpos
  · rw [show Nat.toDigits 10 0 = ['0'] from rfl, List.singleton_append, number, if_pos rfl,
      if_neg hrest.endsNumber.head]
    exact htail
  · obtain ⟨c, digits, heq, hc⟩ := exists_digit n
    rw [heq, List.cons_append]
    have hne : c ≠ '0' := by
      rintro rfl
      exact head?_toDigits_ne_zero hpos (by rw [heq]; rfl)
    have hvalue : Nat.ofDigitChars 10 digits (digitValue c) = n := by
      have hall : Nat.ofDigitChars 10 (c :: digits) 0 = n := by
        rw [← heq, Nat.ofDigitChars_ten_toDigits]
      rwa [Nat.ofDigitChars_cons, Nat.mul_zero, Nat.zero_add] at hall
    have hdigits : ∀ d ∈ digits, d.isDigit = true := fun d hd =>
      isDigit_toDigits d (heq ▸ List.mem_cons_of_mem c hd)
    rw [number, if_neg hne, if_pos hc,
      wholeDigits_append hdigits (by rwa [hvalue]) hrest.endsNumber, hvalue]
    exact htail

end Numbers

section Strings

variable {body rest : List Char}

theorem skipEscape_short {c : Char} (hc : c ∈ ['"', '\\', '/', 'b', 'f', 'n', 'r', 't']) :
    skipEscape (c :: rest) = .ok rest := by
  simp only [List.mem_cons, List.not_mem_nil, or_false] at hc
  rcases hc with rfl | rfl | rfl | rfl | rfl | rfl | rfl | rfl <;> rfl

theorem skipEscape_code {first second third fourth : Char}
    (hhex : ∀ c ∈ [first, second, third, fourth], c ∈ "0123456789abcdefABCDEF".toList) :
    skipEscape ('u' :: first :: second :: third :: fourth :: rest) = .ok rest := by
  have hdigits : ∀ c ∈ "0123456789abcdefABCDEF".toList, (Numeral.hexDigit? c).isSome = true :=
    List.all_eq_true.mp (by decide)
  have hread : ∀ c ∈ [first, second, third, fourth], ∃ n, Numeral.hexDigit? c = some n :=
    fun c hmem => Option.isSome_iff_exists.mp (hdigits c (hhex c hmem))
  simp only [List.forall_mem_cons, List.not_mem_nil, false_implies, implies_true, and_true]
    at hread
  obtain ⟨⟨a, ha⟩, ⟨b, hb⟩, ⟨c, hc⟩, ⟨d, hd⟩⟩ := hread
  rw [skipEscape, if_pos rfl, hexUnit]
  simp only [ha, hb, hc, hd]
  rfl

-- Every step reads at least one character.
theorem skipString_append (h : StringBody body) {fuel : Nat} (hfuel : body.length < fuel) :
    skipString fuel (body ++ '"' :: rest) = .ok rest := by
  induction h generalizing fuel with
  | nil =>
      obtain ⟨fuel, rfl⟩ := Nat.exists_eq_add_one.mpr hfuel
      rfl
  | plain hquote hback hcontrol h ih =>
      obtain ⟨fuel, rfl⟩ := Nat.exists_eq_add_one.mpr (Nat.zero_lt_of_lt hfuel)
      rw [List.cons_append, skipString, if_neg hquote, if_neg hback, if_neg (by omega)]
      exact ih (Nat.lt_of_succ_lt_succ hfuel)
  | short hc h ih =>
      obtain ⟨fuel, rfl⟩ := Nat.exists_eq_add_one.mpr (Nat.zero_lt_of_lt hfuel)
      simp only [List.length_cons] at hfuel
      rw [List.cons_append, skipString, if_neg (by decide), if_pos rfl, List.cons_append,
        skipEscape_short hc]
      exact ih (by omega)
  | code hhex h ih =>
      obtain ⟨fuel, rfl⟩ := Nat.exists_eq_add_one.mpr (Nat.zero_lt_of_lt hfuel)
      simp only [List.length_cons] at hfuel
      rw [List.cons_append, skipString, if_neg (by decide), if_pos rfl]
      simp only [List.cons_append]
      rw [skipEscape_code hhex]
      exact ih (by omega)

end Strings

theorem Whole.exists_digit {whole : List Char} (h : Whole whole) :
    ∃ c digits, whole = c :: digits ∧ c.isDigit = true := by
  cases h with
  | zero => exact ⟨'0', [], rfl, rfl⟩
  | digits hc => exact ⟨_, _, rfl, hc⟩

theorem skipPart_number {whole fraction power rest : List Char} (hwhole : Whole whole)
    (hfraction : Fraction fraction) (hpower : Exponent power) (hrest : EndsValue rest) :
    skipPart (whole ++ fraction ++ power ++ rest) = .ok (none, rest) := by
  have hskip := skipNumber_append hwhole hfraction hpower hrest
  obtain ⟨c, digits, rfl, hc⟩ := hwhole.exists_digit
  simp only [List.cons_append] at hskip ⊢
  rw [skipPart, if_neg (ne_of_isDigit hc rfl), if_neg (ne_of_isDigit hc rfl)]
  simp only [if_neg (ne_of_isDigit hc (d := 'n') rfl), if_neg (ne_of_isDigit hc (d := 't') rfl),
    if_neg (ne_of_isDigit hc (d := 'f') rfl), if_neg (ne_of_isDigit hc (d := '-') rfl),
    if_pos hc, hskip]
  rfl

theorem Scalar.skipPart_append {text rest : List Char} (h : Scalar text) (hrest : EndsValue rest) :
    skipPart (text ++ rest) = .ok (none, rest) := by
  cases h with
  | null => rfl
  | flag value => cases value <;> rfl
  | number hsign hwhole hfraction hpower =>
      rcases hsign with rfl | rfl
      · exact skipPart_number hwhole hfraction hpower hrest
      · have hskip := skipNumber_append hwhole hfraction hpower hrest
        simp only [List.append_assoc, List.cons_append, List.nil_append] at hskip ⊢
        rw [skipPart, if_neg (by decide), if_neg (by decide)]
        simp only [hskip]
        rfl
  | @string body hbody =>
      have hskip : skipString ((body ++ '"' :: rest).length + 1) (body ++ '"' :: rest) = .ok rest :=
        skipString_append hbody (by rw [List.length_append]; omega)
      simp only [List.append_assoc, List.cons_append, List.nil_append]
      rw [skipPart, if_neg (by decide), if_neg (by decide)]
      simp only [hskip]
      rfl

theorem Scalar.starts {text : List Char} (h : Scalar text) :
    ∃ c rest, text = c :: rest ∧ Starts c := by
  cases h with
  | null => exact ⟨_, _, rfl, by decide, by decide, by decide⟩
  | flag value => cases value <;> exact ⟨_, _, rfl, by decide, by decide, by decide⟩
  | number hsign hwhole hfraction hpower =>
      rcases hsign with rfl | rfl
      · obtain ⟨c, digits, rfl, hc⟩ := hwhole.exists_digit
        exact ⟨c, _, rfl, starts_of_isDigit hc⟩
      · exact ⟨_, _, rfl, by decide, by decide, by decide⟩
  | string => exact ⟨_, _, rfl, by decide, by decide, by decide⟩

-- Gaps

theorem skipGaps_append {gap : List Char} (hgap : ∀ c ∈ gap, isGap c = true) (text : List Char) :
    skipGaps (gap ++ text) = skipGaps text := by
  rw [skipGaps, skipGaps, List.dropWhile_append_of_pos hgap]

theorem skipGaps_cons {c : Char} (hc : isGap c = false) (rest : List Char) :
    skipGaps (c :: rest) = c :: rest := by
  rw [skipGaps, List.dropWhile_cons_of_neg (by simp [hc])]

theorem Scalar.skipValue_append {gap text rest : List Char} (hgap : ∀ c ∈ gap, isGap c = true)
    (h : Scalar text) (hrest : EndsValue rest) : skipValue (gap ++ text ++ rest) = .ok rest := by
  obtain ⟨c, more, htext, hstarts⟩ := h.starts
  have hskip := h.skipPart_append hrest
  rw [skipValue, List.append_assoc, skipFrames, skipGaps_append hgap]
  rw [htext, List.cons_append] at hskip ⊢
  rw [skipGaps_cons hstarts.gap, hskip]
  rfl

end Switchboard.Json
