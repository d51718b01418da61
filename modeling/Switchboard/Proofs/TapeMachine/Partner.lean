import Switchboard.Proofs.TapeMachine.LoopTree

namespace Switchboard

namespace Bracket

-- What the code holds from a position on.
def Stands (code : Array Char) (position : Nat) (text : List Char) : Prop :=
  code.toList.drop position = text

namespace Stands

variable {code : Array Char} {position : Nat} {c : Char} {text further : List Char}

theorem head (h : Stands code position (c :: text)) : code[position]? = some c := by
  have hget := congrArg (fun rest => rest[0]?) h
  simpa [List.getElem?_drop] using hget

theorem tail (h : Stands code position (c :: text)) : Stands code (position + 1) text := by
  have hdrop := congrArg (List.drop 1) h
  rwa [List.drop_drop] at hdrop

theorem skip (h : Stands code position (text ++ further)) :
    Stands code (position + text.length) further := by
  have hdrop := congrArg (List.drop text.length) h
  rwa [List.drop_drop, List.drop_left] at hdrop

theorem start (code : Array Char) : Stands code 0 code.toList := rfl

end Stands

variable {code : Array Char} {c : Char} {text after : List Char}

theorem closing?_of_getElem? {position : Nat} (h : code[position]? = some c) (depth : Nat) :
    closing? code depth position =
      if c = ']' then
        if depth = 0 then some position else closing? code (depth - 1) (position + 1)
      else if c = '[' then closing? code (depth + 1) (position + 1)
      else closing? code depth (position + 1) := by
  obtain ⟨hlt, hget⟩ := Array.getElem?_eq_some_iff.mp h
  conv => lhs; rw [closing?.eq_def]
  rw [dif_pos hlt, hget]
  cases depth <;> rfl

theorem opening?_of_getElem? {position : Nat} (h : code[position]? = some c) (depth : Nat) :
    opening? code depth (position + 1) =
      if c = '[' then
        if depth = 0 then some position else opening? code (depth - 1) position
      else if c = ']' then opening? code (depth + 1) position
      else opening? code depth position := by
  conv => lhs; rw [opening?.eq_def]
  simp only [h, Option.some.injEq]
  cases depth <;> rfl

-- A scan in either direction passes text that closes all that is open in front of it. On that side
-- of the text its depth is greater by the number of those open brackets.
theorem closing?_pass {opened : Nat} (h : BalancedFrom opened text) (depth : Nat) {position : Nat}
    (hstands : Stands code position (text ++ after)) :
    closing? code (depth + opened) position = closing? code depth (position + text.length) := by
  induction text generalizing opened position with
  | nil => rw [balancedFrom_nil.mp h, List.length_nil, Nat.add_zero, Nat.add_zero]
  | cons c text ih =>
      rw [closing?_of_getElem? hstands.head, List.length_cons, Nat.add_comm text.length,
        ← Nat.add_assoc]
      by_cases hopen : c = '['
      · subst hopen
        rw [if_neg (by decide), if_pos rfl, Nat.add_assoc]
        exact ih (balancedFrom_open.mp h) hstands.tail
      · by_cases hclose : c = ']'
        · subst hclose
          obtain ⟨hopened, hrest⟩ := balancedFrom_close.mp h
          rw [if_pos rfl, if_neg (by omega), Nat.add_sub_assoc hopened]
          exact ih hrest hstands.tail
        · rw [if_neg hclose, if_neg hopen]
          exact ih ((balancedFrom_plain hopen hclose).mp h) hstands.tail

theorem opening?_pass {opened : Nat} (h : BalancedFrom opened text) (depth : Nat) {position : Nat}
    (hstands : Stands code position (text ++ after)) :
    opening? code depth (position + text.length) = opening? code (depth + opened) position := by
  induction text generalizing opened position with
  | nil => rw [balancedFrom_nil.mp h, List.length_nil, Nat.add_zero, Nat.add_zero]
  | cons c text ih =>
      rw [List.length_cons, Nat.add_comm text.length, ← Nat.add_assoc]
      by_cases hopen : c = '['
      · subst hopen
        rw [ih (balancedFrom_open.mp h) hstands.tail, opening?_of_getElem? hstands.head, if_pos rfl,
          if_neg (by omega), ← Nat.add_assoc, Nat.add_sub_cancel]
      · by_cases hclose : c = ']'
        · subst hclose
          obtain ⟨hopened, hrest⟩ := balancedFrom_close.mp h
          rw [ih hrest hstands.tail, opening?_of_getElem? hstands.head, if_neg (by decide),
            if_pos rfl, Nat.add_assoc, Nat.sub_add_cancel hopened]
        · rw [ih ((balancedFrom_plain hopen hclose).mp h) hstands.tail,
            opening?_of_getElem? hstands.head, if_neg hopen, if_neg hclose]

-- So the brackets around balanced text find each other.
theorem closing?_loop {body : List Char} (hbody : Balanced body) {position : Nat}
    (h : Stands code position ('[' :: (body ++ ']' :: after))) :
    closing? code 0 (position + 1) = some (position + 1 + body.length) := by
  have hpass := closing?_pass hbody 0 h.tail
  rw [hpass, closing?_of_getElem? h.tail.skip.head, if_pos rfl, if_pos rfl]

theorem opening?_loop {body : List Char} (hbody : Balanced body) {position : Nat}
    (h : Stands code position ('[' :: (body ++ ']' :: after))) :
    opening? code 0 (position + 1 + body.length) = some position := by
  rw [opening?_pass hbody 0 h.tail, opening?_of_getElem? h.head, if_pos rfl, if_pos rfl]

-- What a scan ends on is the bracket that it looks for.
theorem getElem?_of_closing?_eq_some {depth position place : Nat}
    (h : closing? code depth position = some place) : code[place]? = some ']' := by
  fun_induction closing? code depth position with
  | case1 position hlt hclose =>
      obtain rfl := Option.some.inj h
      exact Array.getElem?_eq_some_iff.mpr ⟨hlt, hclose⟩
  | case2 position hlt _ depth ih => exact ih h
  | case3 depth position hlt _ _ ih => exact ih h
  | case4 depth position hlt _ _ ih => exact ih h
  | case5 => cases h

theorem getElem?_of_opening?_eq_some {depth position place : Nat}
    (h : opening? code depth position = some place) : code[place]? = some '[' := by
  fun_induction opening? code depth position with
  | case1 => cases h
  | case2 position hopen => exact Option.some.inj h ▸ hopen
  | case3 position _ depth ih => exact ih h
  | case4 depth position _ _ ih => exact ih h
  | case5 depth position _ _ ih => exact ih h

theorem lt_of_closing?_eq_some {depth position place : Nat}
    (h : closing? code depth position = some place) : place < code.size :=
  (Array.getElem?_eq_some_iff.mp (getElem?_of_closing?_eq_some h)).1

theorem lt_of_opening?_eq_some {depth position place : Nat}
    (h : opening? code depth position = some place) : place < code.size :=
  (Array.getElem?_eq_some_iff.mp (getElem?_of_opening?_eq_some h)).1

-- A scan finds what it looks for as soon as the brackets ahead of it outnumber those that it has
-- to pass. The depth counts brackets that were passed and are still alone.
theorem exists_closing?_of_count {depth position : Nat} (hstands : Stands code position text)
    (hcount : depth + text.count '[' < text.count ']') :
    ∃ place, closing? code depth position = some place := by
  have hne : '[' ≠ ']' := by decide
  induction text generalizing depth position with
  | nil => simp at hcount
  | cons c text ih =>
      rw [closing?_of_getElem? hstands.head]
      split_ifs with hclose hdepth hopen
      · exact ⟨position, rfl⟩
      · refine ih hstands.tail ?_
        rw [hclose, List.count_cons_self, List.count_cons_of_ne hne.symm] at hcount
        omega
      · refine ih hstands.tail ?_
        rw [hopen, List.count_cons_self, List.count_cons_of_ne hne] at hcount
        omega
      · refine ih hstands.tail ?_
        simpa [hclose, hopen] using hcount

theorem exists_opening?_of_count {depth position : Nat} (hposition : position ≤ code.size)
    (hcount : depth + (code.toList.take position).count ']' <
      (code.toList.take position).count '[') :
    ∃ place, opening? code depth position = some place := by
  have hne : '[' ≠ ']' := by decide
  induction position generalizing depth with
  | zero => simp at hcount
  | succ position ih =>
      have hget : code[position]? = some code[position] := Array.getElem?_eq_getElem hposition
      have htake : code.toList.take (position + 1) =
          code.toList.take position ++ [code[position]] := by
        simp [List.take_add_one, hget]
      rw [htake, List.count_append, List.count_append] at hcount
      rw [opening?_of_getElem? hget]
      split_ifs with hopen hdepth hclose
      · exact ⟨position, rfl⟩
      · refine ih (by omega) ?_
        rw [hopen, List.count_singleton_self, List.count_cons_of_ne hne, List.count_nil] at hcount
        omega
      · refine ih (by omega) ?_
        rw [hclose, List.count_singleton_self, List.count_cons_of_ne hne.symm, List.count_nil]
          at hcount
        omega
      · refine ih (by omega) ?_
        simpa [hclose, hopen] using hcount

-- In balanced code no bracket is alone, wherever a scan starts.
theorem Balanced.exists_closing? (h : Balanced code.toList) {position : Nat}
    (hopen : code[position]? = some '[') :
    ∃ place, closing? code 0 (position + 1) = some place := by
  obtain ⟨hlt, hget⟩ := Array.getElem?_eq_some_iff.mp hopen
  have hsplit : code.toList =
      code.toList.take position ++ '[' :: code.toList.drop (position + 1) := by
    rw [← hget, ← Array.getElem_toList hlt, List.getElem_cons_drop, List.take_append_drop]
  have hbefore := h.1 position
  have htotal := h.2
  rw [hsplit, List.count_append, List.count_append, List.count_cons_self,
    List.count_cons_of_ne (by decide)] at htotal
  have hstands : Stands code (position + 1) (code.toList.drop (position + 1)) := rfl
  exact exists_closing?_of_count hstands (by omega)

theorem Balanced.exists_opening? (h : Balanced code.toList) {position : Nat}
    (hclose : code[position]? = some ']') :
    ∃ place, opening? code 0 position = some place := by
  have hlt := (Array.getElem?_eq_some_iff.mp hclose).1
  have hbefore := h.1 (position + 1)
  rw [List.take_add_one, Array.getElem?_toList, hclose, Option.toList_some, List.count_append,
    List.count_append, List.count_singleton_self, List.count_cons_of_ne (by decide),
    List.count_nil] at hbefore
  exact exists_opening?_of_count (Nat.le_of_lt hlt) (by omega)

end Bracket

end Switchboard
