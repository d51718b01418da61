import Switchboard.Proofs.TapeMachine.Loading
import Mathlib.Order.Bounds.Basic

namespace Switchboard

namespace Bracket

-- Balanced text is the text of a tree, so it can be put together as trees can.
theorem Balanced.exists_text {code : List Char} (h : Balanced code) :
    ∃ tree : LoopTree, tree.text = code := by
  obtain ⟨tree, htree⟩ := LoopTree.exists_ofCode? h
  exact ⟨tree, LoopTree.ofCode?_eq_some_iff.mp htree⟩

theorem Balanced.append {code more : List Char} (h : Balanced code) (hmore : Balanced more) :
    Balanced (code ++ more) := by
  obtain ⟨tree, rfl⟩ := h.exists_text
  exact (balancedFrom_text_append tree).mpr hmore

theorem Balanced.loop {body : List Char} (h : Balanced body) :
    Balanced ('[' :: (body ++ [']'])) := by
  obtain ⟨tree, rfl⟩ := h.exists_text
  exact balanced_text (.loop tree .done)

-- Two brackets are partners when the text between them is balanced.
def Pair (code : List Char) (first last : Nat) : Prop :=
  ∃ before body after, code = before ++ '[' :: (body ++ ']' :: after) ∧ Balanced body ∧
    first = before.length ∧ last = before.length + 1 + body.length

def Paired (code : List Char) (position : Nat) : Prop :=
  ∃ partner, Pair code position partner ∨ Pair code partner position

-- A bracket without a partner.
def Lone (code : List Char) (position : Nat) : Prop :=
  (∃ bracket, code[position]? = some bracket ∧ IsBracket bracket) ∧ ¬Paired code position

theorem Pair.getElem?_first {code : List Char} {first last : Nat} (h : Pair code first last) :
    code[first]? = some '[' := by
  obtain ⟨before, body, after, rfl, -, rfl, -⟩ := h
  simp

theorem Pair.getElem?_last {code : List Char} {first last : Nat} (h : Pair code first last) :
    code[last]? = some ']' := by
  obtain ⟨before, body, after, rfl, -, -, rfl⟩ := h
  rw [List.getElem?_append_right (by omega),
    show before.length + 1 + body.length - before.length = body.length + 1 by omega]
  simp

theorem Pair.within {code : List Char} {first last : Nat} (h : Pair code first last)
    (front back : List Char) :
    Pair (front ++ (code ++ back)) (front.length + first) (front.length + last) := by
  obtain ⟨before, body, after, rfl, hbody, rfl, rfl⟩ := h
  refine ⟨front ++ before, body, after ++ back, by simp, hbody, by simp, ?_⟩
  rw [List.length_append]
  omega

-- Partners in a part of the text are partners in the whole of it.
theorem Paired.within {code : List Char} {position : Nat} (h : Paired code position)
    (front back : List Char) : Paired (front ++ (code ++ back)) (front.length + position) := by
  obtain ⟨partner, hpair | hpair⟩ := h
  · exact ⟨_, .inl (hpair.within front back)⟩
  · exact ⟨_, .inr (hpair.within front back)⟩

-- All characters of some kind have a partner.
def Matched (kind : Char → Prop) (code : List Char) : Prop :=
  ∀ position c, code[position]? = some c → kind c → Paired code position

theorem matched_singleton {kind : Char → Prop} {c : Char} (h : ¬kind c) : Matched kind [c] := by
  intro position other hget hkind
  obtain rfl := List.mem_singleton.mp (List.mem_of_getElem? hget)
  exact absurd hkind h

theorem Matched.append {kind : Char → Prop} {code more : List Char} (h : Matched kind code)
    (hmore : Matched kind more) : Matched kind (code ++ more) := by
  intro position c hget hkind
  by_cases hlt : position < code.length
  · rw [List.getElem?_append_left hlt] at hget
    simpa using (h position c hget hkind).within [] more
  · obtain ⟨index, rfl⟩ := Nat.exists_eq_add_of_le (Nat.not_lt.mp hlt)
    rw [List.getElem?_append_right (Nat.le_add_right _ _), Nat.add_sub_cancel_left] at hget
    simpa using (hmore index c hget hkind).within code []

theorem Matched.loop {kind : Char → Prop} {body : List Char} (h : Matched kind body)
    (hbody : Balanced body) : Matched kind ('[' :: (body ++ [']'])) := by
  have hpair : Pair ('[' :: (body ++ [']'])) 0 (0 + 1 + body.length) :=
    ⟨[], body, [], rfl, hbody, rfl, rfl⟩
  intro position c hget hkind
  cases position with
  | zero => exact ⟨_, .inl hpair⟩
  | succ index =>
      rw [List.getElem?_cons_succ] at hget
      by_cases hlt : index < body.length
      · rw [List.getElem?_append_left hlt] at hget
        simpa [Nat.add_comm] using (h index c hget hkind).within ['['] [']']
      · have hle := (List.getElem?_eq_some_iff.mp hget).1
        rw [List.length_append, List.length_singleton] at hle
        obtain rfl : index = body.length := by omega
        exact ⟨0, .inr (by simpa [Nat.add_comm] using hpair)⟩

-- In balanced text every bracket has a partner.
theorem Balanced.matched {code : List Char} (h : Balanced code) : Matched IsBracket code := by
  obtain ⟨tree, rfl⟩ := h.exists_text
  clear h
  induction tree with
  | done => simp [Matched, LoopTree.text]
  | plain c isPlain rest ih =>
      exact (matched_singleton (by simp [IsBracket, isPlain])).append ih
  | loop body rest ihBody ihRest =>
      have htext : (LoopTree.loop body rest).text =
          '[' :: (body.text ++ [']']) ++ rest.text := by simp [LoopTree.text]
      rw [htext]
      exact (ihBody.loop (balanced_text body)).append ihRest

-- What has been read of a text, with the places of the brackets that are open, innermost first.
-- Between them the text is balanced.
inductive Opened : List Char → List Nat → Prop where
  | balanced {code} (h : Balanced code) : Opened code []
  | inside {before opened body} (h : Opened before opened) (hbody : Balanced body) :
      Opened (before ++ '[' :: body) (before.length :: opened)

theorem Opened.append {code more : List Char} {opened : List Nat} (h : Opened code opened)
    (hmore : Balanced more) : Opened (code ++ more) opened := by
  cases h with
  | balanced h => exact .balanced (h.append hmore)
  | inside h hbody =>
      rw [List.append_assoc, List.cons_append]
      exact .inside h (hbody.append hmore)

theorem Opened.close {code : List Char} {last : Nat} {opened : List Nat}
    (h : Opened code (last :: opened)) : Opened (code ++ [']']) opened := by
  cases h with
  | inside h hbody =>
      rw [List.append_assoc, List.cons_append]
      exact h.append hbody.loop

-- The closing brackets that were read have all found a partner.
theorem Opened.matched {code : List Char} {opened : List Nat} (h : Opened code opened) :
    Matched (· = ']') code := by
  have hclosed : ∀ {body : List Char}, Balanced body → Matched (· = ']') body :=
    fun hbody position c hget hc => hbody.matched position c hget (.inr hc)
  induction h with
  | balanced h => exact hclosed h
  | inside _ hbody ih =>
      exact ih.append ((matched_singleton (c := '[') (by decide)).append (hclosed hbody))

-- How the check of a text ends. The bracket that it names closes nothing, or else it is the
-- innermost one of those that are open at the end.
theorem unmatchedFrom_cases {code : List Char} {opened : List Nat} (h : Opened code opened)
    {rest : List Char} {bracket : Char} {position : Nat}
    (hfound : unmatchedFrom code.length opened rest = some (bracket, position)) :
    (∃ before after, code ++ rest = before ++ ']' :: after ∧ Balanced before ∧
      bracket = ']' ∧ position = before.length) ∨
    ∃ outer, bracket = '[' ∧ Opened (code ++ rest) (position :: outer) := by
  induction rest generalizing code opened with
  | nil =>
      cases opened with
      | nil => simp [unmatchedFrom] at hfound
      | cons last opened =>
          simp only [unmatchedFrom, Option.some.injEq, Prod.mk.injEq] at hfound
          obtain ⟨rfl, rfl⟩ := hfound
          exact .inr ⟨opened, rfl, by rwa [List.append_nil]⟩
  | cons c rest ih =>
      have hlength : code.length + 1 = (code ++ [c]).length := by simp
      rw [List.append_cons]
      by_cases hopen : c = '['
      · subst hopen
        rw [unmatchedFrom, hlength] at hfound
        exact ih (.inside h (balancedFrom_nil.mpr rfl)) hfound
      · by_cases hclose : c = ']'
        · subst hclose
          cases h with
          | balanced h =>
              simp only [unmatchedFrom, Option.some.injEq, Prod.mk.injEq] at hfound
              obtain ⟨rfl, rfl⟩ := hfound
              exact .inl ⟨code, rest, by simp, h, rfl, rfl⟩
          | inside hbefore hbody =>
              rw [unmatchedFrom, hlength] at hfound
              exact ih (Opened.inside hbefore hbody).close hfound
        · rw [unmatchedFrom_plain hopen hclose, hlength] at hfound
          exact ih (h.append (balanced_text (.plain c ⟨hopen, hclose⟩ .done))) hfound

-- Text in front of a closing bracket that is balanced holds no bracket for it.
theorem lone_close {before : List Char} (h : Balanced before) (after : List Char) :
    Lone (before ++ ']' :: after) before.length := by
  refine ⟨⟨']', by simp, .inr rfl⟩, ?_⟩
  rintro ⟨partner, hpair | hpair⟩
  · have hfirst := hpair.getElem?_first
    simp at hfirst
  · obtain ⟨front, body, back, hcode, hbody, -, hlength⟩ := hpair
    have hsplit : before = front ++ '[' :: body := by
      rw [List.append_cons front, ← List.append_assoc] at hcode
      have hparts := (List.append_inj hcode (by simp [hlength]; omega)).1
      simpa using hparts
    have hfront := h.1 front.length
    have htotal := h.2
    have hinside := hbody.2
    rw [hsplit, List.take_left] at hfront
    rw [hsplit, List.count_append, List.count_append, List.count_cons_self,
      List.count_cons_of_ne (by decide)] at htotal
    omega

-- Text behind an opening bracket that is balanced holds no bracket for it.
theorem lone_open (before : List Char) {after : List Char} (h : Balanced after) :
    Lone (before ++ '[' :: after) before.length := by
  refine ⟨⟨'[', by simp, .inl rfl⟩, ?_⟩
  rintro ⟨partner, hpair | hpair⟩
  · obtain ⟨front, body, back, hcode, hbody, hlength, -⟩ := hpair
    have hsplit : after = body ++ [']'] ++ back := by
      have hparts := (List.append_inj hcode hlength).2
      simpa using hparts
    have hinside := hbody.2
    have hclose := h.1 (body ++ [']']).length
    rw [hsplit, List.take_left, List.count_append, List.count_append, List.count_singleton_self,
      List.count_singleton] at hclose
    simp at hclose
    omega
  · have hlast := hpair.getElem?_last
    simp at hlast

-- No bracket is lone in front of the first that closes nothing.
theorem isLeast_lone {before : List Char} (h : Balanced before) (after : List Char) :
    IsLeast {position | Lone (before ++ ']' :: after) position} before.length := by
  refine ⟨lone_close h after, ?_⟩
  rintro other ⟨⟨bracket, hget, hbracket⟩, hpaired⟩
  by_contra hlt
  rw [List.getElem?_append_left (Nat.not_le.mp hlt)] at hget
  refine hpaired ?_
  simpa using (h.matched other bracket hget hbracket).within [] (']' :: after)

-- No bracket is lone behind the innermost of those that stay open.
theorem Opened.isGreatest_lone {code : List Char} {last : Nat} {outer : List Nat}
    (h : Opened code (last :: outer)) : IsGreatest {position | Lone code position} last := by
  cases h with
  | @inside before _ body _ hbody =>
      refine ⟨lone_open before hbody, ?_⟩
      rintro other ⟨⟨bracket, hget, hbracket⟩, hpaired⟩
      by_contra hlt
      obtain ⟨index, rfl⟩ := Nat.exists_eq_add_of_lt (Nat.not_le.mp hlt)
      have hlength : (before ++ ['[']).length = before.length + 1 := by simp
      rw [List.append_cons, List.getElem?_append_right (by omega),
        show before.length + index + 1 - (before ++ ['[']).length = index by omega] at hget
      refine hpaired ?_
      have hwithin := (hbody.matched index bracket hget hbracket).within (before ++ ['[']) []
      simpa [Nat.add_right_comm] using hwithin

-- The check names the leftmost lone bracket if it names a closing one, and else the rightmost.
theorem lone_of_unmatched? {code : List Char} {bracket : Char} {position : Nat}
    (h : unmatched? code = some (bracket, position)) :
    let lone := {position | Lone code position}
    (∃ other ∈ lone, code[other]? = some ']') ∧ IsLeast lone position ∨
      (∀ other ∈ lone, code[other]? ≠ some ']') ∧ IsGreatest lone position := by
  intro lone
  have hget := (getElem?_of_unmatched? h).1
  have hnone : Opened [] [] := .balanced (balancedFrom_nil.mpr rfl)
  obtain ⟨before, after, htext, hbefore, rfl, rfl⟩ | ⟨outer, rfl, hopened⟩ :=
    unmatchedFrom_cases hnone h
  · have hleast : IsLeast lone before.length := by
      have hlone := isLeast_lone hbefore after
      rwa [← htext, List.nil_append] at hlone
    exact .inl ⟨⟨_, hleast.1, hget⟩, hleast⟩
  · refine .inr ⟨fun other hother hclose => ?_, hopened.isGreatest_lone⟩
    exact hother.2 (hopened.matched other ']' hclose rfl)

end Bracket

namespace TapeMachine

open Switchboard.Bracket

-- A program is refused exactly when it has a bracket without a partner, and the answer names such a
-- bracket. If any of them is a closing one, the answer names the leftmost bracket without a
-- partner. If all of them are opening ones, it names the last, which is the leftmost only when it
-- is alone.
theorem setCode_names_lone (machine : TapeMachine) (code : String) :
    let lone := {position | Lone code.toList position}
    ((machine.setCode code).1 = .ok () ↔ lone = ∅) ∧
    ∀ fault, (machine.setCode code).1 = .error fault → ∃ bracket position,
      fault = .unbalancedBracket bracket position ∧ code.toList[position]? = some bracket ∧
      position ∈ lone ∧
      (IsLeast lone position ↔
        (∃ other ∈ lone, code.toList[other]? = some ']') ∨ lone = {position}) ∧
      ((∀ other ∈ lone, code.toList[other]? = some '[') → IsGreatest lone position) := by
  intro lone
  unfold setCode
  cases hcode : unmatched? code.toList with
  | none =>
      have hbalanced : Balanced code.toList := (unmatched?_eq_none_iff _).mp hcode
      have hempty : lone = ∅ := by
        refine Set.eq_empty_of_forall_notMem fun position hlone => ?_
        obtain ⟨⟨bracket, hget, hbracket⟩, hpaired⟩ := hlone
        exact hpaired (hbalanced.matched position bracket hget hbracket)
      refine ⟨⟨fun _ => hempty, fun _ => rfl⟩, fun fault hfault => ?_⟩
      cases hfault
  | some found =>
      obtain ⟨bracket, position⟩ := found
      have hget := (getElem?_of_unmatched? hcode).1
      have hnamed := lone_of_unmatched? hcode
      have hmem : position ∈ lone := hnamed.elim (fun h => h.2.1) fun h => h.2.1
      refine ⟨⟨fun hok => ?_, fun hempty => ?_⟩,
        fun fault hfault => ⟨bracket, position, (Except.error.inj hfault).symm, hget, hmem, ?_⟩⟩
      · cases hok
      · rw [hempty] at hmem
        cases hmem
      · obtain ⟨⟨other, hother, hclose⟩, hleast⟩ | ⟨hopen, hgreatest⟩ := hnamed
        · refine ⟨⟨fun _ => .inl ⟨other, hother, hclose⟩, fun _ => hleast⟩, fun hall => ?_⟩
          simp [hall other hother] at hclose
        · refine ⟨⟨fun hleast => .inr ?_, ?_⟩, fun _ => hgreatest⟩
          · refine Set.eq_singleton_iff_unique_mem.mpr ⟨hmem, fun other hother => ?_⟩
            exact Nat.le_antisymm (hgreatest.2 hother) (hleast.2 hother)
          · rintro (⟨other, hother, hclose⟩ | halone)
            · exact absurd hclose (hopen other hother)
            · rw [halone]
              exact isLeast_singleton

-- Two closing brackets and two opening ones are lone, with loops before and between them. The
-- answer names the leftmost of the four.
theorem setCode_names_lone_mixed :
    ∃ machine, ofLength 1 = .ok machine ∧
      (machine.setCode "[a]+]b][[.]c[").1 = .error (.unbalancedBracket ']' 4) ∧
      IsLeast {position | Lone "[a]+]b][[.]c[".toList position} 4 := by
  refine ⟨_, rfl, ?_⟩
  have hrefused : (TapeMachine.setCode ⟨.blank 1, #[], 0, [], #[], none⟩ "[a]+]b][[.]c[").1 =
      .error (.unbalancedBracket ']' 4) := by rfl
  obtain ⟨-, hnames⟩ := setCode_names_lone ⟨.blank 1, #[], 0, [], #[], none⟩ "[a]+]b][[.]c["
  obtain ⟨bracket, position, hfault, hget, hmem, hleast, -⟩ := hnames _ hrefused
  obtain ⟨rfl, rfl⟩ := TapeFault.unbalancedBracket.inj hfault
  exact ⟨hrefused, hleast.mpr (.inl ⟨4, hmem, hget⟩)⟩

-- Both brackets are open at the end. The answer names the second one, although the first one has no
-- partner either.
theorem setCode_names_lone_innermost :
    ∃ machine, ofLength 1 = .ok machine ∧
      (machine.setCode "[[").1 = .error (.unbalancedBracket '[' 1) ∧
      IsLeast {position | Lone "[[".toList position} 0 ∧
      ¬IsLeast {position | Lone "[[".toList position} 1 := by
  have hlone : Lone "[[".toList 0 := by
    refine ⟨⟨'[', rfl, .inl rfl⟩, ?_⟩
    rintro ⟨partner, hpair | hpair⟩
    · have hlast := List.mem_of_getElem? hpair.getElem?_last
      simp at hlast
    · have hlast := hpair.getElem?_last
      simp at hlast
  refine ⟨_, rfl, rfl, ⟨hlone, fun _ _ => Nat.zero_le _⟩, fun hleast => ?_⟩
  exact absurd (hleast.2 hlone) (by decide)

end TapeMachine

end Switchboard
