import Switchboard.Text.Utf8
import Mathlib.Data.List.Basic
import Mathlib.Tactic.IntervalCases
import Mathlib.Tactic.SplitIfs

namespace Switchboard.Text.Utf8

theorem encode_ofList (chars : List Char) :
    encode (String.ofList chars) = chars.flatMap String.utf8EncodeChar := by
  unfold encode
  rw [String.toUTF8_eq_toByteArray, String.toByteArray_ofList, List.utf8Encode]
  exact List.data_toByteArray ▸ List.toList_toArray

theorem encode_eq (text : String) : encode text = text.toList.flatMap String.utf8EncodeChar := by
  rw [← encode_ofList, String.ofList_toList]

@[simp] theorem encode_append (first second : String) :
    encode (first ++ second) = encode first ++ encode second := by
  rw [encode_eq, encode_eq, encode_eq, String.toList_append, List.flatMap_append]

theorem encode_join (texts : List String) : encode (String.join texts) = texts.flatMap encode := by
  induction texts with
  | nil => rfl
  | cons text rest ih => rw [String.join_cons, encode_append, ih, List.flatMap_cons]

-- The payload of a byte behind the lead comes back from it.
theorem tails_payload {low high : UInt8} (count code taken bits : Nat) (rest : List UInt8)
    (hlow : low.toNat ≤ bits % 64 + 0x80) (hhigh : bits % 64 + 0x80 ≤ high.toNat) :
    tails low high (count + 1) code taken (UInt8.ofNat (bits % 64 + 0x80) :: rest) =
      tails 0x80 0xBF count (code * 64 + bits % 64) (taken + 1) rest := by
  have hbyte : (UInt8.ofNat (bits % 64 + 0x80)).toNat = bits % 64 + 0x80 :=
    UInt8.toNat_ofNat_of_lt' (by simp only [UInt8.size]; omega)
  have hwithin : low ≤ UInt8.ofNat (bits % 64 + 0x80) ∧ UInt8.ofNat (bits % 64 + 0x80) ≤ high := by
    simp only [UInt8.le_iff_toNat_le, hbyte]
    exact ⟨hlow, hhigh⟩
  rw [tails, if_pos hwithin, hbyte]
  congr 2
  omega

theorem tails_rest (count code taken bits : Nat) (rest : List UInt8) :
    tails 0x80 0xBF (count + 1) code taken (UInt8.ofNat (bits % 64 + 0x80) :: rest) =
      tails 0x80 0xBF count (code * 64 + bits % 64) (taken + 1) rest := by
  refine tails_payload count code taken bits rest ?_ ?_
  · exact Nat.le_add_left 0x80 (bits % 64)
  · have hlt := Nat.mod_lt bits (show 0 < 64 by decide)
    change bits % 64 + 0x80 ≤ 0xBF
    omega

-- What a lead byte asks of the bytes behind it, by its payload, and that payload itself.
theorem followers_two (bits : Nat) (hlow : 2 ≤ bits) (hhigh : bits < 0x20) :
    followers (UInt8.ofNat (bits + 0xC0)) = some (0x80, 0xBF, 1) ∧
      leadBits (UInt8.ofNat (bits + 0xC0)) 1 = bits := by
  interval_cases bits <;> exact ⟨rfl, rfl⟩

theorem followers_three (bits : Nat) (h : bits < 0x10) :
    followers (UInt8.ofNat (bits + 0xE0)) =
        some (if bits = 0 then 0xA0 else 0x80, if bits = 0xD then 0x9F else 0xBF, 2) ∧
      leadBits (UInt8.ofNat (bits + 0xE0)) 2 = bits := by
  interval_cases bits <;> exact ⟨rfl, rfl⟩

theorem followers_four (bits : Nat) (h : bits < 5) :
    followers (UInt8.ofNat (bits + 0xF0)) =
        some (if bits = 0 then 0x90 else 0x80, if bits = 4 then 0x8F else 0xBF, 3) ∧
      leadBits (UInt8.ofNat (bits + 0xF0)) 3 = bits := by
  interval_cases bits <;> exact ⟨rfl, rfl⟩

theorem step_of_followers {lead low high : UInt8} {count bits code taken : Nat}
    {rest : List UInt8} (h : followers lead = some (low, high, count))
    (hbits : leadBits lead count = bits)
    (htails : tails low high count bits 0 rest = (some code, taken)) :
    step lead rest = (some (Char.ofNat code), taken) := by
  have hlead : ¬lead < 0x80 := by
    intro hlt
    have hlow : lead < 0xC2 := UInt8.lt_trans hlt (by decide)
    rw [followers, if_pos hlow] at h
    cases h
  simp only [step, if_neg hlead, h, hbits, htails, Option.map_some]

theorem step_one {v : Nat} (h : v ≤ 0x7F) (rest : List UInt8) :
    step (UInt8.ofNat v) rest = (some (Char.ofNat v), 0) := by
  have hnat : (UInt8.ofNat v).toNat = v :=
    UInt8.toNat_ofNat_of_lt' (by simp only [UInt8.size]; omega)
  have hlt : UInt8.ofNat v < 0x80 := by
    rw [UInt8.lt_iff_toNat_lt, hnat]
    exact Nat.lt_succ_of_le h
  rw [step, if_pos hlt, hnat]

theorem step_two {v : Nat} (hlow : 0x7F < v) (hhigh : v ≤ 0x7FF) (rest : List UInt8) :
    step (UInt8.ofNat (v / 64 % 0x20 + 0xC0)) (UInt8.ofNat (v % 0x40 + 0x80) :: rest) =
      (some (Char.ofNat v), 1) := by
  have hbits : v / 64 % 0x20 = v / 64 := Nat.mod_eq_of_lt (by omega)
  obtain ⟨hfollowers, hlead⟩ := followers_two (v / 64) (by omega) (by omega)
  rw [hbits]
  refine step_of_followers hfollowers hlead ?_
  rw [tails_rest, tails]
  congr 2
  omega

theorem step_three {v : Nat} (hlow : 0x7FF < v) (hhigh : v ≤ 0xFFFF)
    (hscalar : v < 0xD800 ∨ 0xDFFF < v) (rest : List UInt8) :
    step (UInt8.ofNat (v / 4096 % 0x10 + 0xE0))
        (UInt8.ofNat (v / 64 % 0x40 + 0x80) :: UInt8.ofNat (v % 0x40 + 0x80) :: rest) =
      (some (Char.ofNat v), 2) := by
  have hbits : v / 4096 % 0x10 = v / 4096 := Nat.mod_eq_of_lt (by omega)
  obtain ⟨hfollowers, hlead⟩ := followers_three (v / 4096) (by omega)
  rw [hbits]
  refine step_of_followers hfollowers hlead ?_
  rw [tails_payload, tails_rest, tails]
  · congr 2
    omega
  · split_ifs
    · change 0xA0 ≤ _
      omega
    · change 0x80 ≤ _
      omega
  · split_ifs
    · change _ ≤ 0x9F
      omega
    · change _ ≤ 0xBF
      omega

theorem step_four {v : Nat} (hlow : 0xFFFF < v) (hhigh : v < 0x110000) (rest : List UInt8) :
    step (UInt8.ofNat (v / 262144 % 0x08 + 0xF0))
        (UInt8.ofNat (v / 4096 % 0x40 + 0x80) :: UInt8.ofNat (v / 64 % 0x40 + 0x80) ::
          UInt8.ofNat (v % 0x40 + 0x80) :: rest) =
      (some (Char.ofNat v), 3) := by
  have hbits : v / 262144 % 0x08 = v / 262144 := Nat.mod_eq_of_lt (by omega)
  obtain ⟨hfollowers, hlead⟩ := followers_four (v / 262144) (by omega)
  rw [hbits]
  refine step_of_followers hfollowers hlead ?_
  rw [tails_payload, tails_rest, tails_rest, tails]
  · congr 2
    omega
  · split_ifs
    · change 0x90 ≤ _
      omega
    · change 0x80 ≤ _
      omega
  · split_ifs
    · change _ ≤ 0x8F
      omega
    · change _ ≤ 0xBF
      omega

-- The bytes of a character are read as that character, whatever follows them.
theorem step_utf8EncodeChar (c : Char) (rest : List UInt8) :
    ∃ lead tail, String.utf8EncodeChar c = lead :: tail ∧
      step lead (tail ++ rest) = (some c, tail.length) := by
  have hscalar : c.val.toNat < 0xD800 ∨ 0xDFFF < c.val.toNat ∧ c.val.toNat < 0x110000 := c.valid
  have hc : Char.ofNat c.val.toNat = c := Char.ofNat_toNat c
  simp only [String.utf8EncodeChar]
  generalize c.val.toNat = v at hscalar hc
  subst hc
  split_ifs with hone htwo hthree
  · exact ⟨_, _, rfl, step_one hone rest⟩
  · exact ⟨_, _, rfl, step_two (by omega) htwo rest⟩
  · exact ⟨_, _, rfl, step_three (by omega) hthree (by omega) rest⟩
  · exact ⟨_, _, rfl, step_four (by omega) (by omega) rest⟩

theorem decodeLossy_flatMap (chars : List Char) :
    decodeLossy (chars.flatMap String.utf8EncodeChar) = chars := by
  induction chars with
  | nil => rw [List.flatMap_nil, decodeLossy]
  | cons c chars ih =>
      obtain ⟨lead, tail, hbytes, hstep⟩ :=
        step_utf8EncodeChar c (chars.flatMap String.utf8EncodeChar)
      rw [List.flatMap_cons, hbytes, List.cons_append, decodeLossy, hstep, List.drop_left, ih]
      rfl

-- Text that is written as bytes is read back from them without a loss.
theorem decodeLossy_encode (text : String) : decodeLossy (encode text) = text.toList := by
  rw [encode_eq, decodeLossy_flatMap]

theorem encode_injective {first second : String} (h : encode first = encode second) :
    first = second := by
  rw [← String.toList_inj, ← decodeLossy_encode, h, decodeLossy_encode]

theorem ofNat_high {n : Nat} (hlow : 0x80 ≤ n) (hhigh : n < 0x100) : ¬UInt8.ofNat n < 0x80 := by
  rw [UInt8.lt_iff_toNat_lt, UInt8.toNat_ofNat_of_lt' hhigh]
  exact Nat.not_lt_of_le hlow

-- A byte of seven bits stands for nothing but the character with that code.
theorem eq_of_mem_utf8EncodeChar {c : Char} {byte : UInt8} (hbyte : byte < 0x80)
    (h : byte ∈ String.utf8EncodeChar c) : c = Char.ofNat byte.toNat := by
  have hc : Char.ofNat c.val.toNat = c := Char.ofNat_toNat c
  have hne : ∀ {n : Nat}, 0x80 ≤ n → n < 0x100 → byte ≠ UInt8.ofNat n := by
    intro n hlow hhigh heq
    exact ofNat_high hlow hhigh (heq ▸ hbyte)
  simp only [String.utf8EncodeChar] at h
  generalize c.val.toNat = v at h hc
  split_ifs at h with hone htwo hthree
  · rw [List.mem_singleton] at h
    rw [h, UInt8.toNat_ofNat_of_lt' (by simp only [UInt8.size]; omega), hc]
  all_goals
    simp only [List.mem_cons, List.not_mem_nil, or_false] at h
    rcases h with h | h
  · exact absurd h (hne (by omega) (by omega))
  · exact absurd h (hne (by omega) (by omega))
  · exact absurd h (hne (by omega) (by omega))
  · rcases h with h | h <;> exact absurd h (hne (by omega) (by omega))
  · exact absurd h (hne (by omega) (by omega))
  · rcases h with h | h | h <;> exact absurd h (hne (by omega) (by omega))

theorem not_mem_encode {text : String} (h : '\n' ∉ text.toList) : 10 ∉ encode text := by
  intro hmem
  rw [encode_eq, List.mem_flatMap] at hmem
  obtain ⟨c, hc, hbyte⟩ := hmem
  rw [eq_of_mem_utf8EncodeChar (by decide) hbyte] at hc
  exact h hc

end Switchboard.Text.Utf8
