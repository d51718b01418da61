import Switchboard.TapeMachine.Bracket
import Mathlib.Data.Nat.Basic
import Mathlib.Tactic.SplitIfs

namespace Switchboard

namespace Bracket

-- No closing bracket comes before the bracket it closes, and every bracket is closed in the end.
-- So many brackets were open before the code.
def BalancedFrom (depth : Nat) (code : List Char) : Prop :=
  (∀ place, (code.take place).count ']' ≤ depth + (code.take place).count '[') ∧
    code.count ']' = depth + code.count '['

def Balanced (code : List Char) : Prop := BalancedFrom 0 code

theorem balancedFrom_nil {depth : Nat} : BalancedFrom depth [] ↔ depth = 0 := by
  constructor
  · rintro ⟨-, h⟩
    simpa using h.symm
  · rintro rfl
    simp [BalancedFrom]

theorem balancedFrom_open {depth : Nat} {code : List Char} :
    BalancedFrom depth ('[' :: code) ↔ BalancedFrom (depth + 1) code := by
  unfold BalancedFrom
  rw [← Nat.and_forall_add_one]
  simp only [List.take_zero, List.count_nil, List.take_succ_cons, List.count_cons, Nat.zero_le,
    true_and]
  simp [Nat.add_comm, Nat.add_left_comm]

theorem balancedFrom_close {depth : Nat} {code : List Char} :
    BalancedFrom depth (']' :: code) ↔ 0 < depth ∧ BalancedFrom (depth - 1) code := by
  unfold BalancedFrom
  rw [← Nat.and_forall_add_one]
  simp only [List.take_zero, List.count_nil, List.take_succ_cons, List.count_cons, Nat.zero_le,
    true_and]
  have hopen : (']' == '[') = false := by decide
  simp only [beq_self_eq_true, hopen, ite_true, Bool.false_eq_true, ite_false, Nat.add_zero]
  constructor
  · rintro ⟨hbefore, htotal⟩
    have hfirst := hbefore 0
    simp only [List.take_zero, List.count_nil] at hfirst
    refine ⟨by omega, fun place => ?_, by omega⟩
    have := hbefore place
    omega
  · rintro ⟨hdepth, hbefore, htotal⟩
    refine ⟨fun place => ?_, by omega⟩
    have := hbefore place
    omega

theorem balancedFrom_plain {depth : Nat} {c : Char} {code : List Char} (hopen : c ≠ '[')
    (hclose : c ≠ ']') : BalancedFrom depth (c :: code) ↔ BalancedFrom depth code := by
  unfold BalancedFrom
  rw [← Nat.and_forall_add_one]
  simp [hopen, hclose]

theorem unmatchedFrom_plain {c : Char} (hopen : c ≠ '[') (hclose : c ≠ ']') (position : Nat)
    (opened : List Nat) (rest : List Char) :
    unmatchedFrom position opened (c :: rest) = unmatchedFrom (position + 1) opened rest := by
  rw [unmatchedFrom]
  all_goals simp_all

-- The check that loading makes is the one that the counts describe.
theorem unmatchedFrom_eq_none_iff (code : List Char) (position : Nat) (opened : List Nat) :
    unmatchedFrom position opened code = none ↔ BalancedFrom opened.length code := by
  induction code generalizing position opened with
  | nil => cases opened <;> simp [unmatchedFrom, balancedFrom_nil]
  | cons c code ih =>
      by_cases hopen : c = '['
      · subst hopen
        rw [unmatchedFrom, ih, balancedFrom_open, List.length_cons]
      · by_cases hclose : c = ']'
        · subst hclose
          rw [balancedFrom_close]
          cases opened with
          | nil => simp [unmatchedFrom]
          | cons last opened => simp [unmatchedFrom, ih]
        · rw [unmatchedFrom_plain hopen hclose, ih, balancedFrom_plain hopen hclose]

theorem unmatched?_eq_none_iff (code : List Char) : unmatched? code = none ↔ Balanced code :=
  unmatchedFrom_eq_none_iff code 0 []

end Bracket

open Switchboard.Bracket

-- A program as what comes next: nothing, a character that is no bracket, or a loop with all that
-- stands in it.
inductive LoopTree where
  | done
  | plain (c : Char) (isPlain : c ≠ '[' ∧ c ≠ ']') (rest : LoopTree)
  | loop (body rest : LoopTree)

namespace LoopTree

def text : LoopTree → List Char
  | .done => []
  | .plain c _ rest => c :: rest.text
  | .loop body rest => '[' :: (body.text ++ ']' :: rest.text)

theorem text_loop_append (body rest : LoopTree) (after : List Char) :
    (loop body rest).text ++ after = '[' :: (body.text ++ ']' :: (rest.text ++ after)) := by
  simp only [text, List.cons_append, List.append_assoc]

theorem length_loop (body rest : LoopTree) (position : Nat) :
    position + (loop body rest).text.length =
      position + 1 + body.text.length + 1 + rest.text.length := by
  simp only [text, List.length_cons, List.length_append]
  omega

theorem length_plain (c : Char) (isPlain : c ≠ '[' ∧ c ≠ ']') (rest : LoopTree) (position : Nat) :
    position + (plain c isPlain rest).text.length = position + 1 + rest.text.length := by
  simp only [text, List.length_cons]
  omega

-- Reads from the right. The first tree reaches to the end of the loop that the text stands in,
-- and each further one follows the end of a loop.
def levels? : List Char → Option (LoopTree × List LoopTree)
  | [] => some (.done, [])
  | c :: code =>
      match levels? code with
      | none => none
      | some (tree, outer) =>
          if hclose : c = ']' then some (.done, tree :: outer)
          else if hopen : c = '[' then
            match outer with
            | rest :: outer => some (.loop tree rest, outer)
            | [] => none
          else some (.plain c ⟨hopen, hclose⟩ tree, outer)

-- The tree that the matching brackets make of a text.
def ofCode? (code : List Char) : Option LoopTree :=
  match levels? code with
  | some (tree, []) => some tree
  | _ => none

def append : LoopTree → LoopTree → LoopTree
  | .done, next => next
  | .plain c isPlain rest, next => .plain c isPlain (rest.append next)
  | .loop body rest, next => .loop body (rest.append next)

theorem append_done (tree : LoopTree) : tree.append .done = tree := by
  induction tree with
  | done => rfl
  | plain c isPlain rest ih => rw [append, ih]
  | loop body rest _ ih => rw [append, ih]

theorem levels?_append (tree : LoopTree) {code : List Char} {next : LoopTree}
    {outer : List LoopTree} (h : levels? code = some (next, outer)) :
    levels? (tree.text ++ code) = some (tree.append next, outer) := by
  induction tree generalizing code next outer with
  | done => exact h
  | plain c isPlain rest ih =>
      simp only [text, List.cons_append, levels?, ih h, isPlain.1, isPlain.2, dite_false, append]
  | loop body rest ihBody ihRest =>
      have hclose : levels? (']' :: (rest.text ++ code)) =
          some (.done, rest.append next :: outer) := by
        simp only [levels?, ihRest h, dite_true]
      have hne : '[' ≠ ']' := by decide
      simp only [text, List.cons_append, List.append_assoc, levels?, ihBody hclose, append_done,
        hne, dite_false, dite_true, append]

theorem text_of_levels? {code : List Char} {tree : LoopTree} {outer : List LoopTree}
    (h : levels? code = some (tree, outer)) :
    code = tree.text ++ outer.flatMap fun tree => ']' :: tree.text := by
  induction code generalizing tree outer with
  | nil =>
      simp only [levels?, Option.some.injEq, Prod.mk.injEq] at h
      obtain ⟨rfl, rfl⟩ := h
      rfl
  | cons c code ih =>
      simp only [levels?] at h
      cases hcode : levels? code with
      | none => simp [hcode] at h
      | some found =>
          obtain ⟨next, further⟩ := found
          have hnext := ih hcode
          simp only [hcode] at h
          split_ifs at h with hclose hopen
          · simp only [Option.some.injEq, Prod.mk.injEq] at h
            obtain ⟨rfl, rfl⟩ := h
            simp [hclose, hnext, text]
          · cases further with
            | nil => simp at h
            | cons rest further =>
                simp only [Option.some.injEq, Prod.mk.injEq] at h
                obtain ⟨rfl, rfl⟩ := h
                simp [hopen, hnext, text]
          · simp only [Option.some.injEq, Prod.mk.injEq] at h
            obtain ⟨rfl, rfl⟩ := h
            simp [hnext, text]

-- A text is read as the one tree that it spells.
theorem ofCode?_eq_some_iff {code : List Char} {tree : LoopTree} :
    ofCode? code = some tree ↔ tree.text = code := by
  constructor
  · intro h
    unfold ofCode? at h
    split at h
    · rename_i found hlevels
      obtain rfl := Option.some.inj h
      simpa using (text_of_levels? hlevels).symm
    · cases h
  · rintro rfl
    have hlevels := levels?_append tree (show levels? [] = some (.done, []) from rfl)
    rw [List.append_nil, append_done] at hlevels
    simp only [ofCode?, hlevels]

theorem exists_levels? {depth : Nat} {code : List Char} (h : BalancedFrom depth code) :
    ∃ tree outer, levels? code = some (tree, outer) ∧ outer.length = depth := by
  induction code generalizing depth with
  | nil => exact ⟨.done, [], rfl, (balancedFrom_nil.mp h).symm⟩
  | cons c code ih =>
      by_cases hclose : c = ']'
      · subst hclose
        obtain ⟨hdepth, hrest⟩ := balancedFrom_close.mp h
        obtain ⟨tree, outer, hlevels, hlength⟩ := ih hrest
        refine ⟨.done, tree :: outer, by simp only [levels?, hlevels, dite_true], ?_⟩
        rw [List.length_cons]
        omega
      · by_cases hopen : c = '['
        · subst hopen
          obtain ⟨tree, outer, hlevels, hlength⟩ := ih (balancedFrom_open.mp h)
          obtain ⟨rest, further, rfl⟩ := List.exists_cons_of_length_eq_add_one hlength
          refine ⟨.loop tree rest, further, ?_, by simpa using hlength⟩
          simp only [levels?, hlevels, hclose, dite_false, dite_true]
        · obtain ⟨tree, outer, hlevels, hlength⟩ := ih ((balancedFrom_plain hopen hclose).mp h)
          refine ⟨.plain c ⟨hopen, hclose⟩ tree, outer, ?_, hlength⟩
          simp only [levels?, hlevels, hclose, hopen, dite_false]

theorem exists_ofCode? {code : List Char} (h : Balanced code) :
    ∃ tree, ofCode? code = some tree := by
  obtain ⟨tree, outer, hlevels, hlength⟩ := exists_levels? h
  obtain rfl := List.length_eq_zero_iff.mp hlength
  exact ⟨tree, by simp only [ofCode?, hlevels]⟩

end LoopTree

namespace Bracket

-- The text of a tree has no bracket that is alone, so it leaves all that follows as it is.
theorem balancedFrom_text_append (tree : LoopTree) {depth : Nat} {after : List Char} :
    BalancedFrom depth (tree.text ++ after) ↔ BalancedFrom depth after := by
  induction tree generalizing depth after with
  | done => rfl
  | plain c isPlain rest ih =>
      rw [LoopTree.text, List.cons_append, balancedFrom_plain isPlain.1 isPlain.2, ih]
  | loop body rest ihBody ihRest =>
      rw [LoopTree.text_loop_append, balancedFrom_open, ihBody, balancedFrom_close,
        Nat.add_sub_cancel, ihRest]
      simp

theorem balanced_text (tree : LoopTree) : Balanced tree.text := by
  have hempty : BalancedFrom 0 (tree.text ++ []) :=
    (balancedFrom_text_append tree).mpr (balancedFrom_nil.mpr rfl)
  rwa [List.append_nil] at hempty

end Bracket

end Switchboard
