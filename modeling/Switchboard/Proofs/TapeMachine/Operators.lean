import Switchboard.Proofs.TapeMachine.Loading
import Switchboard.Proofs.TapeMachine.Partner
import Switchboard.Proofs.TapeMachine.Walk

namespace Switchboard.TapeMachine

open Switchboard.Bracket

-- The code that is left when all comments are taken out.
def bare (code : List Char) : List Char := code.filter (· ∈ operators)

-- How many operators stand in front of a place of the code. It is the place that an operator has in
-- the bare code.
def rank (code : List Char) (position : Nat) : Nat :=
  (code.take position).countP (· ∈ operators)

-- An operator stands at a place of the code, with so many operators in front of it.
def StandsAt (code : List Char) (index position : Nat) : Prop :=
  (∃ c ∈ operators, code[position]? = some c) ∧ rank code position = index

section Rank

variable {code : List Char} {position : Nat} {c : Char}

theorem take_succ_of_getElem? (h : code[position]? = some c) :
    code.take (position + 1) = code.take position ++ [c] := by
  rw [List.take_add_one, h]
  rfl

theorem rank_operator (h : code[position]? = some c) (hc : c ∈ operators) :
    rank code (position + 1) = rank code position + 1 := by
  simp [rank, take_succ_of_getElem? h, hc]

theorem rank_comment (h : code[position]? = some c) (hc : c ∉ operators) :
    rank code (position + 1) = rank code position := by
  simp [rank, take_succ_of_getElem? h, hc]

theorem rank_end (h : code[position]? = none) : rank code (position + 1) = rank code position := by
  have hle := List.getElem?_eq_none_iff.mp h
  rw [rank, rank, List.take_of_length_le hle, List.take_of_length_le (by omega)]

theorem bare_operator {c : Char} (hc : c ∈ operators) (rest : List Char) :
    bare (c :: rest) = c :: bare rest := List.filter_cons_of_pos (by simpa using hc)

theorem bare_comment {c : Char} (hc : c ∉ operators) (rest : List Char) :
    bare (c :: rest) = bare rest := List.filter_cons_of_neg (by simpa using hc)

theorem bare_eq_append (code : List Char) (position : Nat) :
    bare code = bare (code.take position) ++ bare (code.drop position) := by
  rw [bare, bare, bare, ← List.filter_append, List.take_append_drop]

theorem length_bare_take (code : List Char) (position : Nat) :
    (bare (code.take position)).length = rank code position := by
  rw [bare, rank, List.countP_eq_length_filter]

theorem getElem?_bare (h : code[position]? = some c) (hc : c ∈ operators) :
    (bare code)[rank code position]? = some c := by
  obtain ⟨hlt, hget⟩ := List.getElem?_eq_some_iff.mp h
  have hdrop : bare (code.drop position) = c :: bare (code.drop (position + 1)) := by
    rw [List.drop_eq_getElem_cons hlt, hget, bare_operator hc]
  rw [bare_eq_append code position, ← length_bare_take, hdrop, List.getElem?_append_right le_rfl]
  simp

theorem getElem?_bare_end (h : code[position]? = none) :
    (bare code)[rank code position]? = none := by
  have hle := List.getElem?_eq_none_iff.mp h
  refine List.getElem?_eq_none_iff.mpr ?_
  rw [← length_bare_take, List.take_of_length_le hle]

end Rank

section Scan

variable {code : Array Char} {position : Nat} {c : Char}

theorem getElem?_toArray_bare (h : code[position]? = some c) (hc : c ∈ operators) :
    (bare code.toList).toArray[rank code.toList position]? = some c := by
  rw [List.getElem?_toArray]
  exact getElem?_bare (Array.getElem?_toList.trans h) hc

theorem rank_toList_operator (h : code[position]? = some c) (hc : c ∈ operators) :
    rank code.toList (position + 1) = rank code.toList position + 1 :=
  rank_operator (Array.getElem?_toList.trans h) hc

theorem rank_toList_comment (h : code[position]? = some c) (hc : c ∉ operators) :
    rank code.toList (position + 1) = rank code.toList position :=
  rank_comment (Array.getElem?_toList.trans h) hc

theorem closing?_of_getElem?_eq_none (h : code[position]? = none) (depth : Nat) :
    closing? code depth position = none := by
  rw [closing?.eq_def, dif_neg (Nat.not_lt.mpr (Array.getElem?_eq_none_iff.mp h))]

-- A scan passes over comments as if they were not there.
theorem closing?_bare (code : Array Char) (depth position : Nat) :
    closing? (bare code.toList).toArray depth (rank code.toList position) =
      (closing? code depth position).map (rank code.toList) := by
  have hopenOperator : '[' ∈ operators := by decide
  have hcloseOperator : ']' ∈ operators := by decide
  fun_induction closing? code depth position with
  | case1 position hlt hclose =>
      have hget : code[position]? = some ']' := Array.getElem?_eq_some_iff.mpr ⟨hlt, hclose⟩
      rw [closing?_of_getElem? (getElem?_toArray_bare hget hcloseOperator), if_pos rfl, if_pos rfl]
      rfl
  | case2 position hlt hclose depth ih =>
      have hget : code[position]? = some ']' := Array.getElem?_eq_some_iff.mpr ⟨hlt, hclose⟩
      rw [closing?_of_getElem? (getElem?_toArray_bare hget hcloseOperator), if_pos rfl,
        if_neg (Nat.succ_ne_zero depth), Nat.succ_sub_one,
        ← rank_toList_operator hget hcloseOperator, ih]
  | case3 depth position hlt hclose hopen ih =>
      have hget : code[position]? = some '[' := Array.getElem?_eq_some_iff.mpr ⟨hlt, hopen⟩
      rw [closing?_of_getElem? (getElem?_toArray_bare hget hopenOperator), if_neg (by decide),
        if_pos rfl, ← rank_toList_operator hget hopenOperator, ih]
  | case4 depth position hlt hclose hopen ih =>
      have hget : code[position]? = some code[position] := Array.getElem?_eq_getElem hlt
      by_cases hoperator : code[position] ∈ operators
      · rw [closing?_of_getElem? (getElem?_toArray_bare hget hoperator), if_neg hclose,
          if_neg hopen, ← rank_toList_operator hget hoperator, ih]
      · rw [← rank_toList_comment hget hoperator, ih]
  | case5 depth position hlt =>
      have hend : code.toList[position]? = none := by simpa using hlt
      refine closing?_of_getElem?_eq_none ?_ depth
      rw [List.getElem?_toArray]
      exact getElem?_bare_end hend

theorem opening?_bare (code : Array Char) (depth position : Nat) :
    opening? (bare code.toList).toArray depth (rank code.toList position) =
      (opening? code depth position).map (rank code.toList) := by
  have hopenOperator : '[' ∈ operators := by decide
  have hcloseOperator : ']' ∈ operators := by decide
  fun_induction opening? code depth position with
  | case1 depth => rfl
  | case2 position hopen =>
      rw [rank_toList_operator hopen hopenOperator,
        opening?_of_getElem? (getElem?_toArray_bare hopen hopenOperator), if_pos rfl, if_pos rfl]
      rfl
  | case3 position hopen depth ih =>
      rw [rank_toList_operator hopen hopenOperator,
        opening?_of_getElem? (getElem?_toArray_bare hopen hopenOperator), if_pos rfl,
        if_neg (Nat.succ_ne_zero depth), Nat.succ_sub_one, ih]
  | case4 depth position hopen hclose ih =>
      rw [rank_toList_operator hclose hcloseOperator,
        opening?_of_getElem? (getElem?_toArray_bare hclose hcloseOperator), if_neg (by decide),
        if_pos rfl, ih]
  | case5 depth position hopen hclose ih =>
      cases hget : code[position]? with
      | none => rw [rank_end (Array.getElem?_toList.trans hget), ih]
      | some c =>
          rw [hget, Option.some.injEq] at hopen hclose
          by_cases hoperator : c ∈ operators
          · rw [rank_toList_operator hget hoperator,
              opening?_of_getElem? (getElem?_toArray_bare hget hoperator), if_neg hopen,
              if_neg hclose, ih]
          · rw [rank_toList_comment hget hoperator, ih]

end Scan

-- The check of the bare code names the same bracket.
theorem unmatchedFrom_bare {code rest : List Char} (position : Nat) (opened : List Nat)
    (hrest : code.drop position = rest) :
    unmatchedFrom (rank code position) (opened.map (rank code)) (bare rest) =
      (unmatchedFrom position opened rest).map fun found => (found.1, rank code found.2) := by
  induction rest generalizing position opened with
  | nil => cases opened <;> rfl
  | cons c rest ih =>
      have hget : code[position]? = some c := by
        rw [← List.head?_drop, hrest]
        rfl
      have hnext : code.drop (position + 1) = rest := by
        rw [← List.tail_drop, hrest]
        rfl
      by_cases hoperator : c ∈ operators
      · have hrank := rank_operator hget hoperator
        rw [bare_operator hoperator]
        by_cases hopen : c = '['
        · subst hopen
          rw [unmatchedFrom, unmatchedFrom, ← hrank]
          exact ih (position + 1) (position :: opened) hnext
        · by_cases hclose : c = ']'
          · subst hclose
            cases opened with
            | nil => rfl
            | cons last opened =>
                rw [List.map_cons, unmatchedFrom, unmatchedFrom, ← hrank]
                exact ih (position + 1) opened hnext
          · rw [unmatchedFrom_plain hopen hclose, unmatchedFrom_plain hopen hclose, ← hrank]
            exact ih (position + 1) opened hnext
      · have hopen : c ≠ '[' := fun hopen => hoperator (hopen ▸ by decide)
        have hclose : c ≠ ']' := fun hclose => hoperator (hclose ▸ by decide)
        rw [bare_comment hoperator, unmatchedFrom_plain hopen hclose,
          ← rank_comment hget hoperator]
        exact ih (position + 1) opened hnext

theorem unmatched?_bare (code : List Char) :
    unmatched? (bare code) = (unmatched? code).map fun found => (found.1, rank code found.2) :=
  unmatchedFrom_bare 0 [] rfl

end Switchboard.TapeMachine
