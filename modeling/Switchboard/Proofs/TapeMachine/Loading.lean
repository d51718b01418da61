import Switchboard.Proofs.TapeMachine.LoopTree
import Switchboard.TapeMachine.Machine

namespace Switchboard

namespace Bracket

def IsBracket (c : Char) : Prop := c = '[' ∨ c = ']'

-- A bracket that is reported stands in the code at the reported place, or else it was open before.
theorem getElem?_of_unmatchedFrom {code : List Char} {position place : Nat} {opened : List Nat}
    {bracket : Char} (h : unmatchedFrom position opened code = some (bracket, place)) :
    (bracket = '[' ∧ place ∈ opened) ∨
      ∃ index, place = position + index ∧ code[index]? = some bracket ∧ IsBracket bracket := by
  induction code generalizing position opened with
  | nil =>
      cases opened with
      | nil => simp [unmatchedFrom] at h
      | cons last opened =>
          simp only [unmatchedFrom, Option.some.injEq, Prod.mk.injEq] at h
          obtain ⟨rfl, rfl⟩ := h
          exact .inl ⟨rfl, List.mem_cons_self⟩
  | cons c code ih =>
      -- What is found behind the first character stands one place further on.
      have hlater : ∀ {earlier : List Nat}, (∀ other ∈ earlier, other ∈ opened) →
          unmatchedFrom (position + 1) earlier code = some (bracket, place) →
          (bracket = '[' ∧ place ∈ opened) ∨ ∃ index, place = position + index ∧
            (c :: code)[index]? = some bracket ∧ IsBracket bracket := by
        intro earlier hearlier hrest
        obtain ⟨hbracket, hmem⟩ | ⟨index, hplace, hget, hbracket⟩ := ih hrest
        · exact .inl ⟨hbracket, hearlier place hmem⟩
        · exact .inr ⟨index + 1, by omega, hget, hbracket⟩
      by_cases hopen : c = '['
      · subst hopen
        rw [unmatchedFrom] at h
        obtain ⟨hbracket, hmem⟩ | ⟨index, hplace, hget, hbracket⟩ := ih h
        · obtain rfl | hmem := List.mem_cons.mp hmem
          · exact .inr ⟨0, rfl, by rw [hbracket]; rfl, .inl hbracket⟩
          · exact .inl ⟨hbracket, hmem⟩
        · exact .inr ⟨index + 1, by omega, hget, hbracket⟩
      · by_cases hclose : c = ']'
        · subst hclose
          cases opened with
          | nil =>
              simp only [unmatchedFrom, Option.some.injEq, Prod.mk.injEq] at h
              obtain ⟨rfl, rfl⟩ := h
              exact .inr ⟨0, rfl, rfl, .inr rfl⟩
          | cons last opened =>
              rw [unmatchedFrom] at h
              exact hlater (fun other hmem => List.mem_cons_of_mem last hmem) h
        · rw [unmatchedFrom_plain hopen hclose] at h
          exact hlater (fun other hmem => hmem) h

theorem getElem?_of_unmatched? {code : List Char} {bracket : Char} {place : Nat}
    (h : unmatched? code = some (bracket, place)) :
    code[place]? = some bracket ∧ IsBracket bracket := by
  obtain ⟨-, hmem⟩ | ⟨index, rfl, hget, hbracket⟩ := getElem?_of_unmatchedFrom h
  · cases hmem
  · rw [Nat.zero_add]
    exact ⟨hget, hbracket⟩

end Bracket

namespace TapeMachine

open Switchboard.Bracket

-- Programs are loaded exactly when no place has more brackets closed than opened before it and all
-- are closed at the end. A program that is loaded takes the place of the earlier one, from its
-- first character on; one that is refused changes nothing, and the answer names a bracket of the
-- program and the number of characters in front of it.
theorem setCode_accepts_balanced (machine : TapeMachine) (code : String) :
    ((machine.setCode code).1 = .ok () ↔
      (∀ place, (code.toList.take place).count ']' ≤ (code.toList.take place).count '[') ∧
        code.toList.count ']' = code.toList.count '[') ∧
    ((machine.setCode code).1 = .ok () →
      (machine.setCode code).2 = { machine with code := code.toList.toArray, cursor := 0 }) ∧
    ∀ fault, (machine.setCode code).1 = .error fault →
      (machine.setCode code).2 = machine ∧ ∃ bracket position,
        fault = .unbalancedBracket bracket position ∧ IsBracket bracket ∧
        code.toList[position]? = some bracket := by
  have hbalanced : Balanced code.toList ↔
      (∀ place, (code.toList.take place).count ']' ≤ (code.toList.take place).count '[') ∧
        code.toList.count ']' = code.toList.count '[' := by
    simp only [Bracket.Balanced, BalancedFrom, Nat.zero_add]
  rw [← hbalanced, ← unmatched?_eq_none_iff]
  unfold setCode
  cases hcode : unmatched? code.toList with
  | none =>
      refine ⟨⟨fun _ => rfl, fun _ => rfl⟩, fun _ => rfl, fun fault hfault => ?_⟩
      cases hfault
  | some found =>
      obtain ⟨bracket, position⟩ := found
      obtain ⟨hget, hbracket⟩ := getElem?_of_unmatched? hcode
      have hrefused : (Except.error (.unbalancedBracket bracket position) :
          Except TapeFault Unit) ≠ .ok () := by simp
      refine ⟨⟨fun hok => (hrefused hok).elim, fun hnone => by cases hnone⟩,
        fun hok => (hrefused hok).elim, fun fault hfault => ?_⟩
      obtain rfl := Except.error.inj hfault
      exact ⟨rfl, bracket, position, rfl, hbracket, hget⟩

end TapeMachine

end Switchboard
