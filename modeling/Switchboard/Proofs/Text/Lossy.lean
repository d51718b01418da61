import Switchboard.Proofs.Text.Utf8

namespace Switchboard.Text.Utf8

variable {lead low high : UInt8} {rest : List UInt8} {code count taken value last : Nat}

-- A code that is read to its end has taken one more byte of the right range, and six bits of it.
theorem exists_byte_of_tails
    (h : tails low high (count + 1) code taken rest = (some value, last)) :
    ∃ byte behind, low.toNat ≤ byte ∧ byte ≤ high.toNat ∧
      tails 0x80 0xBF count (code * 64 + byte % 64) (taken + 1) behind = (some value, last) := by
  cases rest with
  | nil => cases h
  | cons byte behind =>
      rw [tails] at h
      split_ifs at h with hrange
      · simp only [UInt8.le_iff_toNat_le] at hrange
        exact ⟨byte.toNat, behind, hrange.1, hrange.2, h⟩
      · cases h

theorem eq_of_tails_zero (h : tails low high 0 code taken rest = (some value, last)) :
    value = code :=
  (Option.some.inj (congrArg Prod.fst h)).symm

theorem eq_of_tails_one (h : tails low high 1 code taken rest = (some value, last)) :
    ∃ byte, low.toNat ≤ byte ∧ byte ≤ high.toNat ∧ value = code * 64 + byte % 64 := by
  obtain ⟨byte, behind, hlow, hhigh, h⟩ := exists_byte_of_tails h
  exact ⟨byte, hlow, hhigh, eq_of_tails_zero h⟩

theorem eq_of_tails_two (h : tails low high 2 code taken rest = (some value, last)) :
    ∃ byte next, low.toNat ≤ byte ∧ byte ≤ high.toNat ∧
      value = (code * 64 + byte % 64) * 64 + next % 64 := by
  obtain ⟨byte, behind, hlow, hhigh, h⟩ := exists_byte_of_tails h
  obtain ⟨next, -, -, h⟩ := eq_of_tails_one h
  exact ⟨byte, next, hlow, hhigh, h⟩

theorem eq_of_tails_three (h : tails low high 3 code taken rest = (some value, last)) :
    ∃ byte next final, low.toNat ≤ byte ∧ byte ≤ high.toNat ∧
      value = ((code * 64 + byte % 64) * 64 + next % 64) * 64 + final % 64 := by
  obtain ⟨byte, behind, hlow, hhigh, h⟩ := exists_byte_of_tails h
  obtain ⟨next, final, -, -, h⟩ := eq_of_tails_two h
  exact ⟨byte, next, final, hlow, hhigh, h⟩

-- The lead bytes by the number of bytes behind them, with the narrow ranges of the second byte.
theorem followers_cases (h : followers lead = some (low, high, count)) :
    (count = 1 ∧ 0xC2 ≤ lead.toNat ∧ lead.toNat < 0xE0) ∨
    (count = 2 ∧ 0xE0 ≤ lead.toNat ∧ lead.toNat < 0xF0 ∧
      (lead.toNat ≠ 0xE0 ∨ 0xA0 ≤ low.toNat ∧ high.toNat ≤ 0xBF) ∧
      (lead.toNat ≠ 0xED ∨ 0x80 ≤ low.toNat ∧ high.toNat ≤ 0x9F)) ∨
    (count = 3 ∧ 0xF0 ≤ lead.toNat ∧ lead.toNat ≤ 0xF4 ∧
      (lead.toNat ≠ 0xF0 ∨ 0x90 ≤ low.toNat ∧ high.toNat ≤ 0xBF) ∧
      (lead.toNat ≠ 0xF4 ∨ 0x80 ≤ low.toNat ∧ high.toNat ≤ 0x8F)) := by
  unfold followers at h
  simp only [UInt8.lt_iff_toNat_lt, ← UInt8.toNat_inj, UInt8.reduceToNat] at h
  split_ifs at h
  all_goals
    cases h
    simp only [UInt8.reduceToNat, true_and]
    omega

-- What begins with a byte of eight bits is read as a scalar value above those of seven bits. The
-- ranges of the second byte keep it away from the surrogates and below the last scalar value.
theorem scalar_of_tails (hfollowers : followers lead = some (low, high, count))
    (h : tails low high count (leadBits lead count) 0 rest = (some value, last)) :
    0x80 ≤ value ∧ (value < 0xD800 ∨ 0xDFFF < value ∧ value < 0x110000) := by
  obtain ⟨rfl, hlead⟩ | ⟨rfl, hlead⟩ | ⟨rfl, hlead⟩ := followers_cases hfollowers
  · have hbits : leadBits lead 1 = lead.toNat % 32 := rfl
    obtain ⟨byte, hlow, hhigh, hvalue⟩ := eq_of_tails_one h
    omega
  · have hbits : leadBits lead 2 = lead.toNat % 16 := rfl
    obtain ⟨byte, next, hlow, hhigh, hvalue⟩ := eq_of_tails_two h
    omega
  · have hbits : leadBits lead 3 = lead.toNat % 8 := rfl
    obtain ⟨byte, next, final, hlow, hhigh, hvalue⟩ := eq_of_tails_three h
    omega

theorem toNat_ofNat_scalar (h : value < 0xD800 ∨ 0xDFFF < value ∧ value < 0x110000) :
    (Char.ofNat value).toNat = value := by
  rw [Char.ofNat, dif_pos h]
  rfl

-- No character of seven bits is read of more than its own byte.
theorem step_high (hlead : ¬lead < 0x80) (rest : List UInt8) :
    0x80 ≤ ((step lead rest).1.getD '\uFFFD').toNat := by
  have hnone : 0x80 ≤ '\uFFFD'.toNat := by decide
  rw [step, if_neg hlead]
  cases hfollowers : followers lead with
  | none => exact hnone
  | some range =>
      obtain ⟨low, high, count⟩ := range
      simp only
      generalize htails : tails low high count (leadBits lead count) 0 rest = read
      obtain ⟨_ | value, last⟩ := read
      · exact hnone
      · obtain ⟨hhigh, hscalar⟩ := scalar_of_tails hfollowers htails
        simpa [toNat_ofNat_scalar hscalar] using hhigh

-- A byte of seven bits is a character wherever it stands, and a character of seven bits is read
-- from its own byte alone, whatever is behind it.
theorem decodeLossy_eq_cons_iff {c : Char} (hc : c.toNat < 0x80) {bytes : List UInt8}
    {chars : List Char} : decodeLossy bytes = c :: chars ↔
      ∃ rest, bytes = UInt8.ofNat c.toNat :: rest ∧ decodeLossy rest = chars := by
  cases bytes with
  | nil => simp [decodeLossy]
  | cons lead rest =>
      rw [decodeLossy, List.cons.injEq]
      by_cases hlead : lead < 0x80
      · have hscalar : (Char.ofNat lead.toNat).toNat = lead.toNat := by
          have hlt := UInt8.lt_iff_toNat_lt.mp hlead
          exact toNat_ofNat_scalar (.inl (Nat.lt_trans hlt (by decide)))
        rw [step, if_pos hlead]
        simp only [Option.getD_some, List.drop_zero]
        constructor
        · rintro ⟨rfl, hrest⟩
          exact ⟨rest, by rw [hscalar, UInt8.ofNat_toNat], hrest⟩
        · rintro ⟨behind, hbytes, hrest⟩
          obtain ⟨rfl, rfl⟩ := List.cons.inj hbytes
          rw [UInt8.toNat_ofNat_of_lt' (Nat.lt_trans hc (by decide)), Char.ofNat_toNat]
          exact ⟨rfl, hrest⟩
      · have hhigh := step_high hlead rest
        constructor
        · rintro ⟨rfl, -⟩
          omega
        · rintro ⟨behind, hbytes, -⟩
          obtain ⟨rfl, -⟩ := List.cons.inj hbytes
          refine absurd ?_ hlead
          rw [UInt8.lt_iff_toNat_lt, UInt8.toNat_ofNat_of_lt' (Nat.lt_trans hc (by decide))]
          exact hc

@[simp] theorem decodeLossy_eq_nil_iff {bytes : List UInt8} :
    decodeLossy bytes = [] ↔ bytes = [] := by
  cases bytes <;> simp [decodeLossy]

-- A text of seven-bit characters is read in front of something exactly where its bytes stand in
-- front, even if what follows them is no text.
theorem decodeLossy_eq_append_iff {front : String} (hfront : ∀ c ∈ front.toList, c.toNat < 0x80)
    {bytes : List UInt8} {chars : List Char} : decodeLossy bytes = front.toList ++ chars ↔
      ∃ rest, bytes = encode front ++ rest ∧ decodeLossy rest = chars := by
  rw [encode_eq]
  generalize front.toList = front at hfront
  induction front generalizing bytes with
  | nil => simp
  | cons c front ih =>
      have hc : c.toNat < 0x80 := hfront c List.mem_cons_self
      have hbyte : String.utf8EncodeChar c = [UInt8.ofNat c.toNat] := by
        rw [String.utf8EncodeChar]
        exact if_pos (Nat.le_of_lt_succ hc)
      have hrest : ∀ other ∈ front, other.toNat < 0x80 :=
        fun other hmem => hfront other (List.mem_cons_of_mem c hmem)
      simp only [List.cons_append, decodeLossy_eq_cons_iff hc, ih hrest, List.flatMap_cons, hbyte,
        List.nil_append]
      constructor
      · rintro ⟨_, rfl, rest, rfl, hchars⟩
        exact ⟨rest, rfl, hchars⟩
      · rintro ⟨rest, rfl, hchars⟩
        exact ⟨_, rfl, rest, rfl, hchars⟩

end Switchboard.Text.Utf8
