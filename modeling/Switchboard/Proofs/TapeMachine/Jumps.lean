import Switchboard.Proofs.TapeMachine.Nesting
import Switchboard.Proofs.TapeMachine.Partner

namespace Switchboard

namespace Bracket

-- A closing bracket takes the innermost of those that are open. The check of the text in front of
-- it names that one.
def Pops (code : List Char) (first last : Nat) : Prop :=
  code[last]? = some ']' ∧ unmatched? (code.take last) = some ('[', first)

instance (code : List Char) (first last : Nat) : Decidable (Pops code first last) :=
  inferInstanceAs (Decidable (_ ∧ _))

variable {code : List Char} {first last inner other position : Nat}

namespace Pair

theorem exists_stands (h : Pair code first last) : ∃ body after, Balanced body ∧
    Stands code.toArray first ('[' :: (body ++ ']' :: after)) ∧
      last = first + 1 + body.length := by
  obtain ⟨before, body, after, rfl, hbody, rfl, rfl⟩ := h
  exact ⟨body, after, hbody, by simp [Stands], rfl⟩

theorem lt (h : Pair code first last) : first < last := by
  obtain ⟨before, body, after, -, -, rfl, rfl⟩ := h
  omega

-- Each scan goes from one partner to the other.
theorem closing?_eq (h : Pair code first last) :
    closing? code.toArray 0 (first + 1) = some last := by
  obtain ⟨body, after, hbody, hstands, rfl⟩ := h.exists_stands
  exact closing?_loop hbody hstands

theorem opening?_eq (h : Pair code first last) : opening? code.toArray 0 last = some first := by
  obtain ⟨body, after, hbody, hstands, rfl⟩ := h.exists_stands
  exact opening?_loop hbody hstands

theorem last_unique (h : Pair code first last) (hother : Pair code first other) : last = other :=
  Option.some.inj (h.closing?_eq.symm.trans hother.closing?_eq)

theorem first_unique (h : Pair code first last) (hother : Pair code inner last) : first = inner :=
  Option.some.inj (h.opening?_eq.symm.trans hother.opening?_eq)

-- The text between partners holds the partner of every bracket in it.
theorem encloses (h : Pair code first last) (hopen : code[inner]? = some '[')
    (hfirst : first < inner) (hlast : inner < last) : ∃ other, other < last ∧
      Pair code inner other := by
  obtain ⟨before, body, after, rfl, hbody, rfl, rfl⟩ := h
  obtain ⟨index, rfl⟩ := Nat.exists_eq_add_of_lt hfirst
  have hlength : (before ++ ['[']).length = before.length + 1 := by simp
  have hindex : index < body.length := by omega
  rw [List.append_cons, List.getElem?_append_right (by omega),
    show before.length + index + 1 - (before ++ ['[']).length = index by omega,
    List.getElem?_append_left hindex] at hopen
  obtain ⟨partner, hpair | hpair⟩ := hbody.matched index '[' hopen (.inl rfl)
  · have hpartner := (List.getElem?_eq_some_iff.mp hpair.getElem?_last).1
    have hwithin := hpair.within (before ++ ['[']) (']' :: after)
    rw [hlength, ← List.append_cons] at hwithin
    exact ⟨before.length + 1 + partner, by omega, by simpa [Nat.add_right_comm] using hwithin⟩
  · have hclose := hpair.getElem?_last
    rw [hopen] at hclose
    cases hclose

-- A pair that begins later begins behind the earlier one, or else it ends inside of it.
theorem nested_or_disjoint (h : Pair code first last) (hother : Pair code inner other)
    (hlt : first < inner) : last < inner ∨ other < last := by
  obtain hinner | rfl | hinner := Nat.lt_trichotomy last inner
  · exact .inl hinner
  · have hclose := h.getElem?_last
    rw [hother.getElem?_first] at hclose
    cases hclose
  · obtain ⟨partner, hpartner, hpair⟩ := h.encloses hother.getElem?_first hlt hinner
    exact .inr (hother.last_unique hpair ▸ hpartner)

end Pair

-- A text whose check ends with a bracket open can go on, and the check goes on with that bracket
-- innermost.
theorem unmatchedFrom_append {text : List Char} {opened : List Nat}
    (h : unmatchedFrom position opened text = some ('[', first)) (rest : List Char) :
    ∃ outer, unmatchedFrom position opened (text ++ rest) =
      unmatchedFrom (position + text.length) (first :: outer) rest := by
  induction text generalizing position opened with
  | nil =>
      cases opened with
      | nil => simp [unmatchedFrom] at h
      | cons last outer =>
          simp only [unmatchedFrom, Option.some.injEq, Prod.mk.injEq, true_and] at h
          exact ⟨outer, by rw [h]; rfl⟩
  | cons c text ih =>
      rw [List.cons_append, List.length_cons, Nat.add_comm text.length, ← Nat.add_assoc]
      by_cases hopen : c = '['
      · subst hopen
        rw [unmatchedFrom] at h ⊢
        exact ih h
      · by_cases hclose : c = ']'
        · subst hclose
          cases opened with
          | nil => simp [unmatchedFrom] at h
          | cons last opened =>
              rw [unmatchedFrom] at h ⊢
              exact ih h
        · rw [unmatchedFrom_plain hopen hclose] at h ⊢
          exact ih h

theorem Pops.exists_outer (h : Pops code first last) : ∃ outer,
    unmatched? code = unmatchedFrom last (first :: outer) (code.drop last) := by
  have hlt := (List.getElem?_eq_some_iff.mp h.1).1
  obtain ⟨outer, hrest⟩ := unmatchedFrom_append h.2 (code.drop last)
  rw [List.take_append_drop, List.length_take, Nat.min_eq_left (Nat.le_of_lt hlt), Nat.zero_add]
    at hrest
  exact ⟨outer, hrest⟩

theorem Pops.pair (h : Pops code first last) : Pair code first last := by
  obtain ⟨hclose, hcheck⟩ := h
  obtain ⟨hlt, hget⟩ := List.getElem?_eq_some_iff.mp hclose
  have hnone : Opened [] [] := .balanced (balancedFrom_nil.mpr rfl)
  obtain ⟨-, -, -, -, hbracket, -⟩ | ⟨outer, -, hopened⟩ := unmatchedFrom_cases hnone hcheck
  · cases hbracket
  · generalize htext : [] ++ code.take last = text at hopened
    cases hopened with
    | @inside before _ body _ hbody =>
        have hlength := congrArg List.length htext
        simp only [List.nil_append, List.length_take, List.length_append, List.length_cons]
          at hlength
        refine ⟨before, body, code.drop (last + 1), ?_, hbody, rfl, by omega⟩
        calc code = code.take last ++ code[last] :: code.drop (last + 1) := by
              rw [List.getElem_cons_drop, List.take_append_drop]
          _ = before ++ '[' :: (body ++ ']' :: code.drop (last + 1)) := by
              rw [hget, ← List.nil_append (code.take last), htext, List.append_assoc,
                List.cons_append]

namespace Balanced

theorem exists_pair (h : Balanced code) (hopen : code[first]? = some '[') :
    ∃ last, Pair code first last := by
  obtain ⟨last, hpair | hpair⟩ := h.matched first '[' hopen (.inl rfl)
  · exact ⟨last, hpair⟩
  · have hclose := hpair.getElem?_last
    rw [hopen] at hclose
    cases hclose

-- The check never comes to a closing bracket with none open.
theorem ne_append_close (h : Balanced code) {before : List Char} (hbefore : Balanced before)
    (after : List Char) : code ≠ before ++ ']' :: after := by
  rintro rfl
  exact (lone_close hbefore after).2 (h.matched _ ']' (by simp) (.inr rfl))

theorem exists_pops (h : Balanced code) (hclose : code[last]? = some ']') :
    ∃ first, Pops code first last := by
  obtain ⟨hlt, hget⟩ := List.getElem?_eq_some_iff.mp hclose
  have hsplit : code = code.take last ++ ']' :: code.drop (last + 1) := by
    rw [← hget, List.getElem_cons_drop, List.take_append_drop]
  cases hcheck : unmatched? (code.take last) with
  | none =>
      exact absurd hsplit (h.ne_append_close ((unmatched?_eq_none_iff _).mp hcheck) _)
  | some found =>
      obtain ⟨bracket, first⟩ := found
      have hnone : Opened [] [] := .balanced (balancedFrom_nil.mpr rfl)
      obtain ⟨before, after, htext, hbefore, -, -⟩ | ⟨outer, rfl, -⟩ :=
        unmatchedFrom_cases hnone hcheck
      · rw [List.nil_append] at htext
        rw [htext, List.append_assoc, List.cons_append] at hsplit
        exact absurd hsplit (h.ne_append_close hbefore _)
      · exact ⟨first, hclose, hcheck⟩

-- In balanced text the check makes all pairs that there are.
theorem pops_iff (h : Balanced code) : Pops code first last ↔ Pair code first last := by
  refine ⟨Pops.pair, fun hpair => ?_⟩
  obtain ⟨inner, hpops⟩ := h.exists_pops hpair.getElem?_last
  exact hpair.first_unique hpops.pair ▸ hpops

end Balanced

-- What is left of balanced text behind a part of it closes what the part leaves open.
theorem BalancedFrom.exists_depth {depth : Nat} {front back : List Char}
    (h : BalancedFrom depth (front ++ back)) : ∃ opened,
      depth + front.count '[' = front.count ']' + opened ∧ BalancedFrom opened back := by
  obtain ⟨hbefore, htotal⟩ := h
  have hfront := hbefore front.length
  rw [List.take_left] at hfront
  obtain ⟨opened, hopened⟩ := Nat.exists_eq_add_of_le hfront
  refine ⟨opened, hopened, fun place => ?_, ?_⟩
  · have hplace := hbefore (front.length + place)
    rw [List.take_length_add_append, List.count_append, List.count_append] at hplace
    omega
  · rw [List.count_append, List.count_append] at htotal
    omega

-- Both scans come by this place between partners with the same depth. It is the number of brackets
-- that are open there, so what a scan has passed holds at least as many brackets that it counts up
-- as brackets that it counts down.
def SameDepth (code : List Char) (first last position : Nat) : Prop :=
  let passed := (code.take position).drop (first + 1)
  let left := (code.take last).drop position
  ∃ depth, passed.count '[' = passed.count ']' + depth ∧
    left.count ']' = left.count '[' + depth ∧
    closing? code.toArray 0 (first + 1) = closing? code.toArray depth position ∧
    opening? code.toArray 0 last = opening? code.toArray depth position

theorem Pair.sameDepth (h : Pair code first last) (hfirst : first < position)
    (hlast : position ≤ last) : SameDepth code first last position := by
  obtain ⟨body, after, hbody, hstands, rfl⟩ := h.exists_stands
  obtain ⟨front, back, rfl, rfl⟩ :
      ∃ front back, body = front ++ back ∧ position = first + 1 + front.length := by
    refine ⟨body.take (position - (first + 1)), body.drop (position - (first + 1)),
      (List.take_append_drop _ _).symm, ?_⟩
    rw [List.length_take]
    omega
  obtain ⟨opened, hopened, hback⟩ := BalancedFrom.exists_depth hbody
  have hinside : Stands code.toArray (first + 1) (front ++ (back ++ ']' :: after)) := by
    rw [← List.append_assoc]
    exact hstands.tail
  have hrest := hinside.skip
  have hend : first + 1 + (front ++ back).length = first + 1 + front.length + back.length := by
    rw [List.length_append, ← Nat.add_assoc]
  have hpassed : (code.take (first + 1 + front.length)).drop (first + 1) = front := by
    rw [List.drop_take, show code.drop (first + 1) = _ from hinside, Nat.add_sub_cancel_left,
      List.take_left]
  have hleft : (code.take (first + 1 + (front ++ back).length)).drop
      (first + 1 + front.length) = back := by
    rw [List.drop_take, show code.drop (first + 1 + front.length) = _ from hrest, hend,
      Nat.add_sub_cancel_left, List.take_left]
  simp only [SameDepth, hpassed, hleft]
  refine ⟨opened, by omega, ?_, ?_, ?_⟩
  · rw [hback.2, Nat.add_comm]
  · have hforward := closing?_pass hback 0 hrest
    rw [Nat.zero_add, ← hend] at hforward
    exact (closing?_pass hbody 0 hstands.tail).trans hforward.symm
  · have hbackward := opening?_pass hback 0 hrest
    rwa [Nat.zero_add, ← hend] at hbackward

end Bracket

namespace TapeMachine

open Switchboard.Bracket

-- Three ways to find a partner agree on every program that can be loaded: the check that keeps the
-- places of the open brackets, and the two scans that only count. A jump changes nothing but the
-- place in the code. Two loops share no bracket, and none of them reaches over the end of another.
theorem jumps_meet_partners {code : List Char} (haccepted : unmatched? code = none) :
    (∀ first, code[first]? = some '[' → ∃ last, Pops code first last) ∧
    (∀ last, code[last]? = some ']' → ∃ first, Pops code first last) ∧
    (∀ first last, code[first]? = some '[' → code[last]? = some ']' →
      (closing? code.toArray 0 (first + 1) = some last ↔
        opening? code.toArray 0 last = some first)) ∧
    ∀ first last, Pops code first last →
      (∃ outer, unmatched? code = unmatchedFrom last (first :: outer) (code.drop last)) ∧
      first < last ∧ code[first]? = some '[' ∧
      (∀ machine : TapeMachine, machine.code = code.toArray → machine.cursor = first →
        machine.tape.current = 0 → machine.enterLoop = { machine with cursor := last }) ∧
      (∀ machine : TapeMachine, machine.code = code.toArray → machine.cursor = last →
        machine.tape.current ≠ 0 → machine.repeatLoop = { machine with cursor := first }) ∧
      (∀ position, first < position → position ≤ last → SameDepth code first last position) ∧
      ∀ inner other, Pops code inner other →
        inner = first ∧ other = last ∨ last < inner ∨ other < first ∨
          first < inner ∧ other < last ∨ inner < first ∧ last < other := by
  have hbalanced : Balanced code := (unmatched?_eq_none_iff _).mp haccepted
  refine ⟨fun first hopen => ?_, fun last hclose => hbalanced.exists_pops hclose,
    fun first last hopen hclose => ⟨fun hclosing => ?_, fun hopening => ?_⟩,
    fun first last hpops =>
      ⟨hpops.exists_outer, hpops.pair.lt, hpops.pair.getElem?_first, ?_, ?_, ?_, ?_⟩⟩
  · obtain ⟨last, hpair⟩ := hbalanced.exists_pair hopen
    exact ⟨last, hbalanced.pops_iff.mpr hpair⟩
  · obtain ⟨partner, hpair⟩ := hbalanced.exists_pair hopen
    obtain rfl := Option.some.inj (hclosing.symm.trans hpair.closing?_eq)
    exact hpair.opening?_eq
  · obtain ⟨partner, hpops⟩ := hbalanced.exists_pops hclose
    obtain rfl := Option.some.inj (hopening.symm.trans hpops.pair.opening?_eq)
    exact hpops.pair.closing?_eq
  · intro machine hcode hcursor hzero
    have hclosing := hpops.pair.closing?_eq
    rw [← hcode, ← hcursor] at hclosing
    simp only [enterLoop, hzero, ne_eq, not_true_eq_false, if_false, hclosing]
  · intro machine hcode hcursor hzero
    have hopening := hpops.pair.opening?_eq
    rw [← hcode, ← hcursor] at hopening
    simp only [repeatLoop, hzero, if_false, hopening]
  · exact fun position hfirst hlast => hpops.pair.sameDepth hfirst hlast
  · intro inner other hother
    obtain hlt | rfl | hlt := Nat.lt_trichotomy first inner
    · obtain hbehind | hinside := hpops.pair.nested_or_disjoint hother.pair hlt
      · exact .inr (.inl hbehind)
      · exact .inr (.inr (.inr (.inl ⟨hlt, hinside⟩)))
    · exact .inl ⟨rfl, hother.pair.last_unique hpops.pair⟩
    · obtain hbehind | hinside := hother.pair.nested_or_disjoint hpops.pair hlt
      · exact .inr (.inr (.inl hbehind))
      · exact .inr (.inr (.inr (.inr ⟨hlt, hinside⟩)))

-- The outer loop holds two others. With nothing in the cell the machine leaves it, and with
-- something in the cell it goes back to its start.
theorem jumps_meet_partners_nested :
    let code := "[[]a[+]]".toList
    let machine : TapeMachine := ⟨.blank 1, code.toArray, 0, [], #[], none⟩
    let filled : TapeMachine := { machine.increment with cursor := 7 }
    unmatched? code = none ∧ Pops code 0 7 ∧ Pops code 4 6 ∧
      machine.enterLoop = { machine with cursor := 7 } ∧
      filled.repeatLoop = { filled with cursor := 0 } := by
  intro code machine filled
  have haccepted : unmatched? code = none := by decide
  have hpops : Pops code 0 7 := by decide
  obtain ⟨-, -, -, hpairs⟩ := jumps_meet_partners haccepted
  obtain ⟨-, -, -, henter, hrepeat, -⟩ := hpairs 0 7 hpops
  exact ⟨haccepted, hpops, by decide, henter machine rfl rfl rfl,
    hrepeat filled rfl rfl (by decide)⟩

end TapeMachine

end Switchboard
