import Switchboard.Config.Document
import Switchboard.Proofs.Json.Reading
import Switchboard.Proofs.Text.Words
import Switchboard.Toml.Document
import Switchboard.Toml.Edition
import Mathlib.Data.List.TakeWhile
import Mathlib.Tactic.SplitIfs

namespace Switchboard.Toml

-- Whether a character stands for itself between two quotes.
def isSafe (c : Char) : Bool := c != '"' && c != '\\' && 0x20 ≤ c.toNat && c.toNat != 0x7F

-- A character between two quotes. One that does not stand for itself is told by its code.
def escapeChar (c : Char) : List Char :=
  if isSafe c then [c]
  else ['\\', 'u', '0', '0', Json.hexDigit (c.toNat / 16), Json.hexDigit (c.toNat % 16)]

def escapeText (text : String) : List Char := text.toList.flatMap escapeChar

-- The line that gives a text to a setting.
def assignment (setting : Setting) (text : String) : String :=
  String.ofList (setting.key.toList ++ " = \"".toList ++ escapeText text ++ ['"'])

-- The code of a character that does not stand for itself has two digits.
theorem toNat_lt_of_not_isSafe {c : Char} (h : ¬isSafe c = true) : c.toNat < 0x80 := by
  simp only [isSafe, Bool.and_eq_true, bne_iff_ne, decide_eq_true_eq, not_and] at h
  by_contra hlarge
  refine h ⟨⟨?_, ?_⟩, ?_⟩ ?_
  · rintro rfl
    exact hlarge (by decide)
  · rintro rfl
    exact hlarge (by decide)
  · omega
  · omega

theorem ne_of_safe {c : Char} (h : isSafe c = true) : c ≠ '"' ∧ c ≠ '\\' ∧ c ≠ '\n' := by
  refine ⟨?_, ?_, ?_⟩ <;> rintro rfl <;> exact absurd h (by decide)

theorem isDigit_hexDigit {n : Nat} (h : n < 16) :
    Number.Radix.hexadecimal.isDigit (Json.hexDigit n) = true := by
  decide +revert

theorem ne_hexDigit {n : Nat} (h : n < 16) :
    Json.hexDigit n ≠ '"' ∧ Json.hexDigit n ≠ '\\' ∧ Json.hexDigit n ≠ '\n' := by
  decide +revert

-- A code below the limit has two digits behind its zeros.
theorem coded_hexDigit {n : Nat} (h : n < 0x80) (place : Nat) (rest : List Char) :
    Quoted.coded 4 place
      ('0' :: '0' :: Json.hexDigit (n / 16) :: Json.hexDigit (n % 16) :: rest) =
        .ok (Char.ofNat n, rest) := by
  have hzero : Numeral.hexDigit? '0' = some 0 := rfl
  have hhigh : n / 16 < 16 := by omega
  have hlow : n % 16 < 16 := Nat.mod_lt n (by decide)
  have hfirst := Json.hexDigit?_hexDigit hhigh
  have hsecond := Json.hexDigit?_hexDigit hlow
  have hdigits : ∀ c ∈ ['0', '0', Json.hexDigit (n / 16), Json.hexDigit (n % 16)],
      Number.Radix.hexadecimal.isDigit c = true := by
    simp only [List.forall_mem_cons, List.not_mem_nil, false_implies, implies_true, and_true]
    exact ⟨rfl, rfl, isDigit_hexDigit hhigh, isDigit_hexDigit hlow⟩
  have hnumber : Number.Radix.hexadecimal.natural?
      ['0', '0', Json.hexDigit (n / 16), Json.hexDigit (n % 16)] = some n := by
    rw [Number.Radix.natural?, List.all_eq_true.mpr hdigits]
    simp [hfirst, hsecond, hzero, Number.Radix.base]
    omega
  have hvalid : n.isValidChar := .inl (by omega)
  rw [Quoted.coded]
  simp only [List.take_succ_cons, List.take_zero, List.takeWhile_eq_self_iff.mpr hdigits, hnumber,
    if_pos hvalid]
  rfl

section Tokens

theorem scan_skip {skip place : Nat} (front rest : List Char) (h : front.length = skip) :
    Token.scan skip place (front ++ rest) = Token.scan 0 place rest := by
  subst h
  induction front with
  | nil => rfl
  | cons c front ih => exact ih

theorem scan_token (place : Nat) {c : Char} {more rest : List Char} {kind : TokenKind}
    (h : Token.next c (more ++ rest) = (kind, more.length + 1)) :
    Token.scan 0 place (c :: more ++ rest) =
      ⟨kind, ⟨place, place + (more.length + 1)⟩⟩ ::
        Token.scan 0 (place + (more.length + 1)) rest := by
  rw [List.cons_append, Token.scan, h]
  exact congrArg _ (scan_skip more rest rfl)

theorem scan_single (place : Nat) {c : Char} {rest : List Char} {kind : TokenKind}
    (h : Token.next c rest = (kind, 1)) :
    Token.scan 0 place (c :: rest) =
      ⟨kind, ⟨place, place + 1⟩⟩ :: Token.scan 0 (place + 1) rest := by
  have hfront : Token.next c ([] ++ rest) = (kind, ([] : List Char).length + 1) := h
  exact scan_token place hfront

theorem next_key (setting : Setting) (rest : List Char) : ∃ c more, setting.key.toList = c :: more ∧
    Token.next c (more ++ ' ' :: rest) = (.word, more.length + 1) ∧ c ≠ '\uFEFF' := by
  cases setting <;> exact ⟨_, _, rfl, rfl, by decide⟩

-- A backslash only takes the next character with it if that is a backslash or a quote.
theorem untilMark_cons {c d : Char} {rest : List Char} (hquote : c ≠ '"') (hbreak : c ≠ '\n')
    (hpair : c ≠ '\\' ∨ d ≠ '\\' ∧ d ≠ '"') :
    Token.untilMark '"' true (c :: d :: rest) = 1 + Token.untilMark '"' true (d :: rest) := by
  have hsingle : ¬(true = true ∧ c = '\\' ∧ (d = '\\' ∨ d = '"')) := by
    rintro ⟨-, hback, hnext⟩
    rcases hpair with hpair | ⟨hleft, hright⟩
    · exact hpair hback
    · exact hnext.elim hleft hright
  rw [Token.untilMark, if_neg hquote, if_neg hsingle]
  exact hbreak

theorem untilMark_escapeChar (c d : Char) (rest : List Char) :
    Token.untilMark '"' true (escapeChar c ++ d :: rest) =
      (escapeChar c).length + Token.untilMark '"' true (d :: rest) := by
  unfold escapeChar
  split_ifs with hsafe
  · obtain ⟨hquote, hback, hbreak⟩ := ne_of_safe hsafe
    exact untilMark_cons hquote hbreak (.inl hback)
  · have hcode := toNat_lt_of_not_isSafe hsafe
    obtain ⟨hquote, hback, hbreak⟩ := ne_hexDigit (show c.toNat / 16 < 16 by omega)
    obtain ⟨hquote', hback', hbreak'⟩ := ne_hexDigit (Nat.mod_lt c.toNat (by decide : 0 < 16))
    simp only [List.cons_append, List.nil_append]
    rw [untilMark_cons (by decide) (by decide) (.inr (by decide)),
      untilMark_cons (by decide) (by decide) (.inl (by decide)),
      untilMark_cons (by decide) (by decide) (.inl (by decide)),
      untilMark_cons (by decide) (by decide) (.inl (by decide)),
      untilMark_cons hquote hbreak (.inl hback), untilMark_cons hquote' hbreak' (.inl hback')]
    simp only [List.length_cons, List.length_nil]
    omega

theorem untilMark_escaped (chars rest : List Char) :
    Token.untilMark '"' true (chars.flatMap escapeChar ++ '"' :: rest) =
      (chars.flatMap escapeChar).length + Token.untilMark '"' true ('"' :: rest) := by
  induction chars with
  | nil => simp
  | cons c chars ih =>
      obtain ⟨d, more, hmore⟩ : ∃ d more, chars.flatMap escapeChar ++ '"' :: rest = d :: more :=
        List.exists_cons_of_ne_nil (by simp)
      rw [List.flatMap_cons, List.append_assoc, hmore, untilMark_escapeChar, ← hmore, ih,
        List.length_append, Nat.add_assoc]

theorem quote_not_mem_escapeText (text : String) : '"' ∉ escapeText text := by
  intro hmem
  obtain ⟨c, -, hc⟩ := List.mem_flatMap.mp hmem
  unfold escapeChar at hc
  split_ifs at hc with hsafe
  · exact (ne_of_safe hsafe).1 (List.mem_singleton.mp hc).symm
  · have hcode := toNat_lt_of_not_isSafe hsafe
    have hfirst := (ne_hexDigit (show c.toNat / 16 < 16 by omega)).1
    have hsecond := (ne_hexDigit (Nat.mod_lt c.toNat (by decide : 0 < 16))).1
    simp [hfirst.symm, hsecond.symm] at hc

-- The quotes around a text end where the text does, since there is no quote in between.
theorem next_quote (text : String) :
    Token.next '"' (escapeText text ++ ['"']) = (.quoted .basic, (escapeText text).length + 2) := by
  have hmark : Token.untilMark '"' true (escapeText text ++ ['"']) = (escapeText text).length + 1 :=
    untilMark_escaped text.toList []
  have hnext : Token.next '"' (escapeText text ++ ['"']) =
      Token.quotedToken '"' .basic .basicLines true (escapeText text ++ ['"']) := rfl
  have hsingle : Token.quotedToken '"' .basic .basicLines true (escapeText text ++ ['"']) =
      (.quoted .basic, 1 + Token.untilMark '"' true (escapeText text ++ ['"'])) := by
    have hnot := quote_not_mem_escapeText text
    cases hchars : escapeText text with
    | nil => rfl
    | cons a more =>
        have ha : a ≠ '"' := fun heq => hnot (by rw [hchars, heq]; exact List.mem_cons_self)
        obtain ⟨b, rest, hrest⟩ : ∃ b rest, more ++ ['"'] = b :: rest :=
          List.exists_cons_of_ne_nil (by simp)
        rw [List.cons_append, hrest]
        exact if_neg fun h => ha h.1
  rw [hnext, hsingle, hmark]
  congr 1
  omega

-- Where the text of an assignment stands, quotes included.
def textSpan (setting : Setting) (text : String) : Span :=
  ⟨setting.key.length + 3, setting.key.length + 3 + ((escapeText text).length + 2)⟩

theorem tokens_assignment (setting : Setting) (text : String) :
    Token.ofText (assignment setting text).toList =
      [⟨.word, ⟨0, setting.key.length⟩⟩,
        ⟨.blank, ⟨setting.key.length, setting.key.length + 1⟩⟩,
        ⟨.equals, ⟨setting.key.length + 1, setting.key.length + 2⟩⟩,
        ⟨.blank, ⟨setting.key.length + 2, setting.key.length + 3⟩⟩,
        ⟨.quoted .basic, textSpan setting text⟩,
        ⟨.finish, ⟨(textSpan setting text).stop, (textSpan setting text).stop⟩⟩] := by
  obtain ⟨c, more, hkey, hnext, hmark⟩ :=
    next_key setting ('=' :: ' ' :: '"' :: (escapeText text ++ ['"']))
  have hlength : setting.key.length = more.length + 1 := by
    rw [← String.length_toList, hkey, List.length_cons]
  have hchars : (assignment setting text).toList =
      c :: more ++ ' ' :: '=' :: ' ' :: '"' :: (escapeText text ++ ['"']) := by
    rw [assignment, String.toList_ofList, hkey]
    simp
  have hquote : Token.next '"' (escapeText text ++ ['"'] ++ []) =
      (.quoted .basic, (escapeText text ++ ['"']).length + 1) := by
    rw [List.append_nil, next_quote, List.length_append]
    rfl
  have hlast : Token.scan 0 (setting.key.length + 3) ('"' :: (escapeText text ++ ['"'])) =
      [⟨.quoted .basic, textSpan setting text⟩,
        ⟨.finish, ⟨(textSpan setting text).stop, (textSpan setting text).stop⟩⟩] := by
    have htoken := scan_token (setting.key.length + 3) hquote
    rw [List.append_nil, List.length_append] at htoken
    exact htoken
  rw [hchars, List.cons_append, Token.ofText, if_neg hmark, ← List.cons_append,
    scan_token 0 hnext, ← hlength, Nat.zero_add, scan_single _ rfl, scan_single _ rfl,
    scan_single _ rfl, hlast]

end Tokens

theorem statements_assignment (setting : Setting) (text : String) (source : Array Char) :
    Statement.read source (Token.ofText (assignment setting text).toList) =
      .ok [.assignment [⟨⟨0, setting.key.length⟩, none⟩]
        (.scalar (textSpan setting text) (some .basic))] := by
  rw [tokens_assignment]
  rfl

-- What stands between two places of a text.
theorem slice_toArray (front middle back : List Char) :
    Document.slice (front ++ middle ++ back).toArray
      ⟨front.length, front.length + middle.length⟩ = middle := by
  simp [Document.slice]

theorem isVisible_of_safe {c : Char} (h : isSafe c = true) : Quoted.isVisible c = true := by
  simp only [isSafe, Bool.and_eq_true, decide_eq_true_eq, bne_iff_ne] at h
  simp [Quoted.isVisible, h.1.2, h.2]

theorem escaped_hexDigit {c : Char} (h : c.toNat < 0x80) (place : Nat) (rest : List Char) :
    Quoted.escaped false place ('u' :: '0' :: '0' :: Json.hexDigit (c.toNat / 16) ::
      Json.hexDigit (c.toNat % 16) :: rest) = .ok ([c], rest) := by
  have hcoded := coded_hexDigit h (place + 1) rest
  rw [Char.ofNat_toNat] at hcoded
  change (Quoted.coded 4 (place + 1) ('0' :: '0' :: Json.hexDigit (c.toNat / 16) ::
    Json.hexDigit (c.toNat % 16) :: rest) >>= fun found => pure ([found.1], found.2)) = _
  rw [hcoded]
  rfl

theorem body_escapeChar (expected : List String) (stop fuel : Nat) (c : Char) (rest : List Char) :
    Quoted.body .basic false true expected stop (fuel + 1) (escapeChar c ++ rest) =
      (Quoted.body .basic false true expected stop fuel rest).map (c :: ·) := by
  unfold escapeChar
  split_ifs with hsafe
  · have hback : ¬(c = '\\' ∧ True) := fun h => (ne_of_safe hsafe).2.1 h.1
    have hbreak : Quoted.break? false (c :: rest) = none := rfl
    rw [List.singleton_append, Quoted.body]
    simp only [if_neg hback, hbreak, if_pos (isVisible_of_safe hsafe)]
    cases Quoted.body .basic false true expected stop fuel rest <;> rfl
  · simp only [List.cons_append, List.nil_append]
    rw [Quoted.body]
    simp only [and_self, if_true, escaped_hexDigit (toNat_lt_of_not_isSafe hsafe), bind,
      Except.bind]
    cases Quoted.body .basic false true expected stop fuel rest <;> rfl

theorem body_escaped (expected : List String) (stop : Nat) (chars : List Char) {fuel : Nat}
    (hfuel : chars.length < fuel) :
    Quoted.body .basic false true expected stop fuel (chars.flatMap escapeChar) = .ok chars := by
  induction chars generalizing fuel with
  | nil =>
      obtain ⟨fuel, rfl⟩ := Nat.exists_eq_add_one.mpr hfuel
      rfl
  | cons c chars ih =>
      obtain ⟨fuel, rfl⟩ := Nat.exists_eq_add_one.mpr (Nat.zero_lt_of_lt hfuel)
      rw [List.flatMap_cons, body_escapeChar, ih (Nat.lt_of_succ_lt_succ hfuel)]
      rfl

theorem escapeChar_ne_nil (c : Char) : escapeChar c ≠ [] := by
  unfold escapeChar
  split_ifs <;> exact List.cons_ne_nil _ _

theorem read_quoted (text : String) (span : Span) :
    Quoted.read .basic ('"' :: (escapeText text ++ ['"'])) span = .ok text := by
  have hlength : text.toList.length ≤ (escapeText text).length :=
    Text.length_le_flatMap escapeChar_ne_nil text.toList
  have hbody : ∀ stop, Quoted.body .basic false true (Quoted.expectedInside true) stop
      ((escapeText text).length + 1) (escapeText text) = .ok text.toList := fun stop =>
    body_escaped _ stop text.toList (by omega)
  have hsuffix : ['"'].isSuffixOf (escapeText text ++ ['"']) = true := by simp
  have htake : (escapeText text ++ ['"']).take ((escapeText text ++ ['"']).length - 1) =
      escapeText text := by simp
  have hlong : ¬(escapeText text ++ ['"']).length < 1 := by
    rw [List.length_append, List.length_singleton]
    omega
  have hmarks : Quoted.marks .basic = ['"'] := rfl
  have hlines : Quoted.lines .basic = false := rfl
  have hescapes : Quoted.escapes .basic = true := rfl
  unfold Quoted.read
  simp only [hmarks, hlines, hescapes, List.length_singleton, List.drop_succ_cons,
    List.drop_zero, htake, hsuffix, hlong, Bool.true_eq_false, or_self, if_false, hbody,
    Bool.false_eq_true]
  change Except.ok (String.ofList text.toList) = _
  rw [String.ofList_toList]

section Assignment

variable (setting : Setting) (text : String)

theorem slice_key : Document.slice (assignment setting text).toList.toArray
    ⟨0, setting.key.length⟩ = setting.key.toList := by
  have hslice := slice_toArray [] setting.key.toList (" = \"".toList ++ escapeText text ++ ['"'])
  simpa [assignment, String.length_toList] using hslice

theorem slice_text : Document.slice (assignment setting text).toList.toArray
    (textSpan setting text) = '"' :: (escapeText text ++ ['"']) := by
  have hslice := slice_toArray (setting.key.toList ++ " = ".toList)
    ('"' :: (escapeText text ++ ['"'])) []
  simpa [assignment, textSpan, String.length_toList] using hslice

theorem key_read (span : Span) : Scalar.key setting.key.toList span = .ok setting.key := by
  cases setting <;> rfl

-- A document of one line gives the text to the setting, and nothing else to anything.
theorem read_assignment :
    Document.read (assignment setting text) = .ok [(setting.key, .text text)] := by
  have hname : Document.nameOf (assignment setting text).toList.toArray
      ⟨⟨0, setting.key.length⟩, none⟩ = .ok ⟨setting.key, ⟨0, setting.key.length⟩⟩ := by
    unfold Document.nameOf
    simp only [slice_key, key_read]
    rfl
  have hitem : Document.itemOf (assignment setting text).toList.toArray
      (.scalar (textSpan setting text) (some .basic)) = .ok (.datum (.value (.text text))) := by
    rw [Document.itemOf, slice_text, read_quoted]
    rfl
  have hfollow : Document.follow (assignment setting text).toList.toArray ⟨[], []⟩
      (.assignment [⟨⟨0, setting.key.length⟩, none⟩]
        (.scalar (textSpan setting text) (some .basic))) =
          .ok ⟨[], [(setting.key, .datum (.value (.text text)))]⟩ := by
    unfold Document.follow
    simp only [List.mapM_cons, List.mapM_nil, hname, hitem, bind, Except.bind, pure, Except.pure]
    rfl
  unfold Document.read
  simp only [statements_assignment, bind, Except.bind, List.foldlM_cons, List.foldlM_nil, hfollow,
    pure, Except.pure]
  rfl

theorem escapeFault?_cons {c : Char} (hback : c ≠ '\\') (place : Nat) (rest : List Char) :
    Edition.escapeFault? place (c :: rest) = Edition.escapeFault? (place + 1) rest := by
  rw [Edition.escapeFault?]
  exact fun d more heq => absurd heq hback

theorem escapeFault?_escapeChar (place : Nat) (c : Char) (rest : List Char) :
    Edition.escapeFault? place (escapeChar c ++ rest) =
      Edition.escapeFault? (place + (escapeChar c).length) rest := by
  unfold escapeChar
  split_ifs with hsafe
  · exact escapeFault?_cons (ne_of_safe hsafe).2.1 place rest
  · have hcode := toNat_lt_of_not_isSafe hsafe
    have hfirst := (ne_hexDigit (show c.toNat / 16 < 16 by omega)).2.1
    have hsecond := (ne_hexDigit (Nat.mod_lt c.toNat (by decide : 0 < 16))).2.1
    simp only [List.cons_append, List.nil_append]
    rw [Edition.escapeFault?, if_neg (by decide), escapeFault?_cons (by decide),
      escapeFault?_cons (by decide), escapeFault?_cons hfirst, escapeFault?_cons hsecond]
    rfl

theorem escapeFault?_escaped (place : Nat) (chars rest : List Char) :
    Edition.escapeFault? place (chars.flatMap escapeChar ++ rest) =
      Edition.escapeFault? (place + (chars.flatMap escapeChar).length) rest := by
  induction chars generalizing place with
  | nil => rfl
  | cons c chars ih =>
      rw [List.flatMap_cons, List.append_assoc, escapeFault?_escapeChar, ih, List.length_append,
        Nat.add_assoc]

-- The older edition finds nothing wrong with it either.
theorem fault?_assignment : Edition.fault? (assignment setting text) = none := by
  have hkey : Edition.timeFault? 0 setting.key.toList .nothing = none := by
    cases setting <;> rfl
  have htext : Edition.escapeFault? (textSpan setting text).start
      ('"' :: (escapeText text ++ ['"'])) = none := by
    rw [escapeFault?_cons (by decide)]
    exact escapeFault?_escaped _ text.toList ['"']
  obtain ⟨state, hword, hequals⟩ : ∃ state,
      Edition.step (assignment setting text).toList.toArray
        ⟨.word, ⟨0, setting.key.length⟩⟩ .line = .ok state ∧
      Edition.step (assignment setting text).toList.toArray
        ⟨.equals, ⟨setting.key.length + 1, setting.key.length + 2⟩⟩ state =
          .ok { state with inKey := false, ahead := .nothing } := by
    have hinside : Token.inside (assignment setting text).toList.toArray
        ⟨.word, ⟨0, setting.key.length⟩⟩ = setting.key.toList := slice_key setting text
    unfold Edition.step
    simp only [Edition.State.line, hinside, hkey]
    exact ⟨_, rfl, rfl⟩
  have hquoted : ∀ state, ∃ next, Edition.step (assignment setting text).toList.toArray
      ⟨.quoted .basic, textSpan setting text⟩ state = .ok next := by
    have hinside : Token.inside (assignment setting text).toList.toArray
        ⟨.quoted .basic, textSpan setting text⟩ = '"' :: (escapeText text ++ ['"']) :=
      slice_text setting text
    intro state
    unfold Edition.step
    simp only [hinside, htext]
    exact ⟨_, rfl⟩
  obtain ⟨next, hnext⟩ := hquoted { state with inKey := false, ahead := .nothing }
  have hblank : ∀ span state, Edition.step (assignment setting text).toList.toArray
      ⟨.blank, span⟩ state = .ok state := fun _ _ => rfl
  have hfinish : ∀ span state, Edition.step (assignment setting text).toList.toArray
      ⟨.finish, span⟩ state = .ok state := fun _ _ => rfl
  unfold Edition.fault?
  simp only [tokens_assignment, List.foldlM_cons, List.foldlM_nil, bind, Except.bind, hword,
    hblank, hequals, hnext, hfinish]
  rfl

end Assignment

end Switchboard.Toml
