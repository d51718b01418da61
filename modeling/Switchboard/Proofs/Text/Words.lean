import Switchboard.Text.Blank
import Mathlib.Data.List.Basic

namespace Switchboard.Text

-- A text as a row of blanks and words. A word ends where the text does or a blank follows, so no
-- word can be made longer on either side.
inductive SplitsInto : List Char → List (List Char) → Prop where
  | nil : SplitsInto [] []
  | blank {c text words} (hblank : isBlank c = true) (h : SplitsInto text words) :
      SplitsInto (c :: text) words
  | word {word rest words} (hne : word ≠ []) (hword : ∀ c ∈ word, isBlank c = false)
      (hend : ∀ c ∈ rest.head?, isBlank c = true) (h : SplitsInto rest words) :
      SplitsInto (word ++ rest) (word :: words)

def runs (text : List Char) : List (List Char) := (pieces text).filter fun piece => !piece.isEmpty

theorem pieces_blank {c : Char} (hblank : isBlank c = true) (text : List Char) :
    pieces (c :: text) = [] :: pieces text := by
  rw [pieces, if_pos hblank]

theorem runs_blank {c : Char} (hblank : isBlank c = true) (text : List Char) :
    runs (c :: text) = runs text := by
  rw [runs, pieces_blank hblank]
  rfl

-- A run of characters that are not blank goes in front of the first piece of what follows.
theorem pieces_append {word : List Char} (hword : ∀ c ∈ word, isBlank c = false)
    {rest piece : List Char} {more : List (List Char)} (hrest : pieces rest = piece :: more) :
    pieces (word ++ rest) = (word ++ piece) :: more := by
  induction word with
  | nil => exact hrest
  | cons c word ih =>
      have hc := hword c List.mem_cons_self
      have htail := ih fun other hmem => hword other (List.mem_cons_of_mem c hmem)
      simp only [List.cons_append, pieces, hc, htail, Bool.false_eq_true, if_false]

theorem runs_word {word rest : List Char} (hne : word ≠ [])
    (hword : ∀ c ∈ word, isBlank c = false) (hend : ∀ c ∈ rest.head?, isBlank c = true) :
    runs (word ++ rest) = word :: runs rest := by
  cases rest with
  | nil =>
      rw [runs, pieces_append hword (show pieces [] = [[]] from rfl)]
      simp [hne, runs, pieces]
  | cons c rest =>
      have hblank := hend c rfl
      rw [runs_blank hblank, runs, pieces_append hword (pieces_blank hblank rest)]
      simp [hne, runs]

theorem SplitsInto.eq_runs {text : List Char} {words : List (List Char)}
    (h : SplitsInto text words) : words = runs text := by
  induction h with
  | nil => rfl
  | blank hblank _ ih => rw [runs_blank hblank, ih]
  | word hne hword hend _ ih => rw [runs_word hne hword hend, ih]

theorem exists_splitsInto (text : List Char) : ∃ words, SplitsInto text words := by
  induction text with
  | nil => exact ⟨[], .nil⟩
  | cons c text ih =>
      obtain ⟨words, hsplits⟩ := ih
      cases hc : isBlank c with
      | true => exact ⟨words, .blank hc hsplits⟩
      | false =>
          have hsingle : ∀ other ∈ [c], isBlank other = false := by simpa using hc
          cases hsplits with
          | nil => exact ⟨_, .word (List.cons_ne_nil c []) hsingle (by simp) .nil⟩
          | blank hblank h =>
              exact ⟨_, .word (List.cons_ne_nil c []) hsingle (by simpa using hblank)
                (.blank hblank h)⟩
          | @word word _ _ _ hword hend h =>
              have hlonger : ∀ other ∈ c :: word, isBlank other = false := by
                simpa [hc] using hword
              exact ⟨_, .word (List.cons_ne_nil c word) hlonger hend h⟩

-- There is one way to split a text.
theorem splitsInto_iff {text : List Char} {words : List (List Char)} :
    SplitsInto text words ↔ words = runs text := by
  refine ⟨SplitsInto.eq_runs, ?_⟩
  rintro rfl
  obtain ⟨words, hsplits⟩ := exists_splitsInto text
  exact hsplits.eq_runs ▸ hsplits

theorem splitsInto_toList_iff {line : String} {parts : List String} :
    SplitsInto line.toList (parts.map String.toList) ↔ parts = words line := by
  rw [splitsInto_iff]
  change _ ↔ parts = (runs line.toList).map String.ofList
  constructor
  · intro h
    rw [← h, List.map_map]
    simp
  · rintro rfl
    rw [List.map_map]
    simp

-- Blanks between words

theorem pieces_ne_nil (text : List Char) : pieces text ≠ [] := by
  cases text with
  | nil => simp [pieces]
  | cons c text =>
      simp only [pieces]
      split_ifs
      · simp
      · split <;> simp

-- A blank belongs to no piece, so what is in front of it and what follows it are cut apart.
theorem pieces_append_blank {c : Char} (hblank : isBlank c = true) (before after : List Char) :
    pieces (before ++ c :: after) = pieces before ++ pieces after := by
  induction before with
  | nil => exact pieces_blank hblank after
  | cons first before ih =>
      by_cases hfirst : isBlank first = true
      · rw [List.cons_append, pieces_blank hfirst, ih, pieces_blank hfirst, List.cons_append]
      · obtain ⟨piece, more, hpieces⟩ := List.exists_cons_of_ne_nil (pieces_ne_nil before)
        simp only [List.cons_append, pieces, if_neg hfirst, ih, hpieces]

theorem runs_append_blank {c : Char} (hblank : isBlank c = true) (before after : List Char) :
    runs (before ++ c :: after) = runs before ++ runs after := by
  rw [runs, pieces_append_blank hblank, List.filter_append]
  rfl

theorem runs_blanks {blanks : List Char} (hblanks : ∀ c ∈ blanks, isBlank c = true)
    (text : List Char) : runs (blanks ++ text) = runs text := by
  induction blanks with
  | nil => rfl
  | cons c blanks ih =>
      have htail : ∀ other ∈ blanks, isBlank other = true := fun other hmem =>
        hblanks other (List.mem_cons_of_mem c hmem)
      rw [List.cons_append, runs_blank (hblanks c List.mem_cons_self), ih htail]

theorem words_append {gap : String} (hne : gap ≠ "") (hgap : ∀ c ∈ gap.toList, isBlank c = true)
    (before after : String) : words (before ++ gap ++ after) = words before ++ words after := by
  obtain ⟨c, rest, hchars⟩ : ∃ c rest, gap.toList = c :: rest :=
    List.exists_cons_of_ne_nil (by simpa using hne)
  rw [hchars] at hgap
  have hrest : ∀ other ∈ rest, isBlank other = true := fun other hmem =>
    hgap other (List.mem_cons_of_mem c hmem)
  have hsplit : (before ++ gap ++ after).toList =
      before.toList ++ c :: (rest ++ after.toList) := by
    simp [hchars]
  change (runs (before ++ gap ++ after).toList).map String.ofList = _
  rw [hsplit, runs_append_blank (hgap c List.mem_cons_self), runs_blanks hrest, List.map_append]
  rfl

theorem words_intercalate {gap : String} (hne : gap ≠ "")
    (hgap : ∀ c ∈ gap.toList, isBlank c = true) (texts : List String) :
    words (gap.intercalate texts) = texts.flatMap words := by
  induction texts with
  | nil => rw [String.intercalate_nil]; rfl
  | cons text rest ih =>
      by_cases hrest : rest = []
      · simp [hrest]
      · rw [String.intercalate_cons_of_ne_nil hrest, words_append hne hgap, ih,
          List.flatMap_cons]

-- Of the characters of ASCII behind the space none is a blank.
theorem isBlank_eq_false {c : Char} (hlow : 0x20 < c.toNat) (hhigh : c.toNat < 0x80) :
    isBlank c = false := by
  change (if c.toNat < 0x9 then false else if c.toNat ≤ 0xD then true else
    if c.toNat < 0x20 then false else if c.toNat ≤ 0x20 then true else
    if c.toNat < 0x85 then false else _) = false
  rw [if_neg (by omega), if_neg (by omega), if_neg (by omega), if_neg (by omega),
    if_pos (by omega)]

-- A text without blanks is one word, and is found again between blanks.
theorem words_of_not_blank {word : String} (hne : word ≠ "")
    (hword : ∀ c ∈ word.toList, isBlank c = false) : words word = [word] := by
  have hsplits : SplitsInto word.toList ([word].map String.toList) := by
    have hchars : word.toList ≠ [] := by simpa using hne
    have hend : ∀ c ∈ ([] : List Char).head?, isBlank c = true := by simp
    simpa using SplitsInto.word hchars hword hend .nil
  exact (splitsInto_toList_iff.mp hsplits).symm

-- The parts of a text between the places of one character. Two of them side by side have an empty
-- part between them.
def partsAt (gap : Char) (text : String) : List String :=
  (text.toList.splitOn gap).map String.ofList

theorem partsAt_intercalate {gap : Char} {texts : List String} (hne : texts ≠ [])
    (htexts : ∀ text ∈ texts, gap ∉ text.toList) :
    partsAt gap ((String.singleton gap).intercalate texts) = texts := by
  have hparts : ∀ chars ∈ texts.map String.toList, gap ∉ chars := by
    intro chars hmem
    obtain ⟨text, htext, rfl⟩ := List.mem_map.mp hmem
    exact htexts text htext
  rw [partsAt, String.toList_intercalate, String.toList_singleton,
    List.splitOn_intercalate gap hparts (by simpa using hne), List.map_map]
  simp

-- A text that is spelled out in parts, none of them empty, does not get shorter.
theorem length_le_flatMap {α β : Type} {spell : α → List β} (hne : ∀ item, spell item ≠ [])
    (items : List α) : items.length ≤ (items.flatMap spell).length := by
  induction items with
  | nil => exact Nat.le_refl 0
  | cons item items ih =>
      have hone := List.length_pos_of_ne_nil (hne item)
      rw [List.flatMap_cons, List.length_append, List.length_cons]
      omega

theorem isBlank_of_mem_space : ∀ c ∈ " ".toList, isBlank c = true := List.all_eq_true.mp rfl

theorem words_spaced {texts : List String}
    (htexts : ∀ word ∈ texts, word ≠ "" ∧ ∀ c ∈ word.toList, isBlank c = false) :
    words (" ".intercalate texts) = texts := by
  rw [words_intercalate (by decide) isBlank_of_mem_space]
  induction texts with
  | nil => rfl
  | cons word rest ih =>
      obtain ⟨hne, hword⟩ := htexts word List.mem_cons_self
      have hrest := ih fun other hmem => htexts other (List.mem_cons_of_mem word hmem)
      rw [List.flatMap_cons, words_of_not_blank hne hword, hrest, List.singleton_append]

end Switchboard.Text
