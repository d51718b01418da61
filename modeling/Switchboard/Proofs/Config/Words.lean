import Switchboard.Config.Environment
import Switchboard.Proofs.Text.Words
import Mathlib.Data.List.TakeWhile

namespace Switchboard

namespace VariableText

variable {text : String} {c : Char} {rest : List Char}

theorem isBlank_of_isAlphanum {c : Char} (h : c.isAlphanum = true) : Text.isBlank c = false := by
  have hbounds : 0x20 < c.toNat ∧ c.toNat < 0x80 := by
    change (c.isUpper || c.isLower || c.isDigit) = true at h
    rw [Bool.or_eq_true, Bool.or_eq_true, Char.isDigit_iff_toNat] at h
    rcases h with (hupper | hlower) | hdigit
    · have : 65 ≤ c.toNat ∧ c.toNat ≤ 90 := of_decide_eq_true hupper
      omega
    · obtain ⟨hlow, hhigh⟩ := Bool.and_eq_true_iff.mp hlower
      have : 97 ≤ c.toNat ∧ c.toNat ≤ 122 := ⟨of_decide_eq_true hlow, of_decide_eq_true hhigh⟩
      omega
    · change 48 ≤ c.toNat ∧ c.toNat ≤ 57 at hdigit
      omega
  exact Text.isBlank_eq_false hbounds.1 hbounds.2

theorem ne_of_isAlphanum {c d : Char} (hc : c.isAlphanum = true) (hd : d.isAlphanum = false) :
    c ≠ d := by
  rintro rfl
  exact absurd (hd.symm.trans hc) (by decide)

theorem trim_of_isAlphanum (h : ∀ c ∈ text.toList, c.isAlphanum = true) :
    Text.trim text = text := by
  have hkept : ∀ chars : List Char, (∀ c ∈ chars, c ∈ text.toList) →
      chars.dropWhile Text.isBlank = chars := by
    intro chars hchars
    refine List.dropWhile_eq_self_iff.mpr fun hne => ?_
    simp [isBlank_of_isAlphanum (h _ (hchars _ (List.getElem_mem hne)))]
  rw [Text.trim, Text.trimEnd, hkept _ fun _ => List.mem_reverse.mp, List.reverse_reverse,
    String.ofList_toList, Text.trimStart, hkept _ fun _ => id, String.ofList_toList]

theorem read_word (range : Numeral.Range) (hplus : c ≠ '+') (hminus : c ≠ '-')
    (hdigit : c.isDigit = false) : Numeral.read range (c :: rest) = .error .invalidDigit := by
  have hdigits : Numeral.digits range 1 (c :: rest) = .error .invalidDigit := by
    rw [Numeral.digits, Numeral.accumulate, hdigit]
    · rfl
    · exact nofun
  unfold Numeral.read
  split
  · cases ‹c :: rest = []›
  · exact absurd (List.cons.inj ‹c :: rest = _›).1 hplus
  · exact absurd (List.cons.inj ‹c :: rest = _›).1 hminus
  · exact hdigits

theorem scalar_of_isAlphanum (htext : text.toList = c :: rest)
    (h : ∀ c ∈ text.toList, c.isAlphanum = true) (hdigit : c.isDigit = false) :
    scalar text = .text text := by
  have hc : c.isAlphanum = true := h c (htext ▸ List.mem_cons_self)
  have hpoint : text.toList.contains '.' = false := by
    simp only [List.contains_eq_mem, decide_eq_false_iff_not]
    exact fun hmem => absurd (h '.' hmem) (by decide)
  have hread : ∀ range, Numeral.read range text.toList = .error .invalidDigit := fun range => by
    rw [htext]
    exact read_word range (ne_of_isAlphanum hc rfl) (ne_of_isAlphanum hc rfl) hdigit
  simp only [scalar, hpoint, integer?, hread]
  rfl

-- A text of letters and digits that starts like no value of another kind stands for itself.
theorem value_of_isAlphanum (htext : text.toList = c :: rest)
    (h : ∀ c ∈ text.toList, c.isAlphanum = true) (hdigit : c.isDigit = false)
    (htrue : c.toLower ≠ 't') (hfalse : c.toLower ≠ 'f') : value text = .text text := by
  have hc : c.isAlphanum = true := h c (htext ▸ List.mem_cons_self)
  have hcomma : text.toList.contains ',' = false := by
    simp only [List.contains_eq_mem, decide_eq_false_iff_not]
    exact fun hmem => absurd (h ',' hmem) (by decide)
  have hordinary : ∀ d ∈ text.toList, isOrdinary d = true := by
    intro d hd
    simp [isOrdinary, ne_of_isAlphanum (h d hd)]
  have hwhole : value? (text.length + 1) text.toList = some (.text text, []) := by
    have hfirst : ∀ {d : Char} {tail : List Char}, d.isAlphanum = false →
        text.toList ≠ d :: tail := by
      intro d tail hd heq
      exact ne_of_isAlphanum hc hd (List.cons.inj (htext.symm.trans heq)).1
    have hgap : skipGaps text.toList = text.toList := by
      refine List.dropWhile_eq_self_iff.mpr fun hne => ?_
      simp [isGap, ne_of_isAlphanum (h _ (List.getElem_mem hne))]
    have hliteral : ∀ {letter : Char} (word : List Char), c.toLower ≠ letter →
        literal? (letter :: word) text.toList = none := by
      intro letter word hletter
      rw [htext, literal?, List.length_cons, List.take_succ_cons, List.map_cons,
        if_neg fun heq => hletter (List.cons.inj heq).1]
    have htake : text.toList.takeWhile isOrdinary = text.toList :=
      List.takeWhile_eq_self_iff.mpr hordinary
    have hdrop : text.toList.dropWhile isOrdinary = [] := List.dropWhile_eq_nil_iff.mpr hordinary
    rw [value?, hgap]
    simp only [hliteral _ htrue, hliteral _ hfalse, Option.bind_eq_bind, Option.bind_some, htake,
      hdrop, String.ofList_toList, trim_of_isAlphanum h, scalar_of_isAlphanum htext h hdigit]
    split
    · exact absurd ‹text.toList = _› (hfirst rfl)
    · exact absurd ‹text.toList = _› (hfirst rfl)
    · exact absurd ‹text.toList = _› (hfirst rfl)
    · exact absurd ‹text.toList = _› (hfirst rfl)
    · exact absurd ‹text.toList = _› (hfirst rfl)
    · rfl
  rw [value, trim_of_isAlphanum h, hcomma]
  simp only [whole, hwhole]
  rfl

theorem toLower_of_not_isUpper {c : Char} (h : c.isUpper = false) : c.toLower = c :=
  dif_neg (of_decide_eq_false h)

theorem isAlphanum_of_toLower {c : Char} (h : c.toLower.isAlphanum = true) :
    c.isAlphanum = true := by
  cases hupper : c.isUpper with
  | true =>
      change (c.isUpper || c.isLower || c.isDigit) = true
      rw [hupper, Bool.true_or, Bool.true_or]
  | false => rwa [toLower_of_not_isUpper hupper] at h

theorem toLower_of_isDigit {c : Char} (h : c.isDigit = true) : c.toLower = c := by
  obtain ⟨hlow, hhigh⟩ : 48 ≤ c.toNat ∧ c.toNat ≤ 57 := Char.isDigit_iff_toNat.mp h
  refine toLower_of_not_isUpper (decide_eq_false ?_)
  rintro ⟨hupper, -⟩
  have : 65 ≤ c.toNat := UInt32.le_iff_toNat_le.mp hupper
  omega

-- A name that no text of another kind can be taken for.
def isWord : List Char → Bool
  | [] => false
  | c :: rest => !c.isDigit && c != 't' && c != 'f' && (c :: rest).all Char.isAlphanum

theorem value_of_foldCase (h : isWord (Choice.foldCase text) = true) : value text = .text text := by
  cases htext : text.toList with
  | nil =>
      rw [Choice.foldCase, htext] at h
      cases h
  | cons c rest =>
      have hfold : Choice.foldCase text = c.toLower :: rest.map Char.toLower := by
        rw [Choice.foldCase, htext, List.map_cons]
      rw [hfold] at h
      simp only [isWord, Bool.and_eq_true, Bool.not_eq_true', bne_iff_ne, List.all_eq_true] at h
      obtain ⟨⟨⟨hdigit, htrue⟩, hfalse⟩, hall⟩ := h
      refine value_of_isAlphanum htext (fun d hd => isAlphanum_of_toLower ?_) ?_ htrue hfalse
      · rw [← hfold] at hall
        exact hall d.toLower (List.mem_map_of_mem hd)
      · rw [← Bool.not_eq_true]
        intro hc
        rw [toLower_of_isDigit hc, hc] at hdigit
        cases hdigit

end VariableText

end Switchboard
