import Switchboard.Proofs.StackMachine.Charge

namespace Switchboard

namespace Slate

variable {domain : Domain} {s next last : Slate} {word : String} {words : List String}

-- The same slate with more numbers under it.
def onto (s : Slate) (below : List Int) : Slate := { s with stack := s.stack ++ below }

theorem apply_onto_arithmetic {op : Int → Int → Int} (hop : arithmetic? word = some op)
    (hneeded : needed word = 2) (henough : ¬s.stack.length < needed word) (below : List Int) :
    (s.onto below).apply domain word = (s.apply domain word).map (·.onto below) := by
  obtain ⟨stack, output⟩ := s
  match stack with
  | right :: left :: rest =>
      simp only [onto, List.cons_append, apply_arithmetic hop hneeded]
      split_ifs <;> rfl
  | [single] => simp [hneeded] at henough
  | [] => simp [hneeded] at henough

-- A word that finds enough numbers does not look at those under them. Only the word for the depth
-- counts them all.
theorem apply_onto_of_enough (hword : word ≠ "deep") (henough : ¬s.stack.length < needed word)
    (below : List Int) :
    (s.onto below).apply domain word = (s.apply domain word).map (·.onto below) := by
  by_cases hvocabulary : word ∈ vocabulary
  · simp only [vocabulary, List.mem_cons, List.not_mem_nil, or_false] at hvocabulary
    rcases hvocabulary with rfl | rfl | rfl | rfl | rfl | rfl | rfl | rfl | rfl | rfl
    · exact apply_onto_arithmetic rfl rfl henough below
    · exact apply_onto_arithmetic rfl rfl henough below
    · exact apply_onto_arithmetic rfl rfl henough below
    · exact apply_onto_arithmetic rfl rfl henough below
    · exact apply_onto_arithmetic rfl rfl henough below
    · obtain ⟨_ | ⟨top, rest⟩, output⟩ := s
      · exact absurd Nat.zero_lt_one henough
      · rfl
    · obtain ⟨_ | ⟨top, rest⟩, output⟩ := s
      · exact absurd Nat.zero_lt_one henough
      · rfl
    · obtain ⟨_ | ⟨top, rest⟩, output⟩ := s
      · exact absurd Nat.zero_lt_one henough
      · rfl
    · exact absurd rfl hword
    · obtain ⟨_ | ⟨top, _ | ⟨next, rest⟩⟩, output⟩ := s
      · exact absurd Nat.zero_lt_two henough
      · exact absurd Nat.one_lt_two henough
      · rfl
  · rw [apply_number hvocabulary, apply_number hvocabulary]
    cases domain.parse word <;> rfl

theorem apply_onto_ok (hword : word ≠ "deep") (happly : s.apply domain word = .ok next)
    (below : List Int) : (s.onto below).apply domain word = .ok (next.onto below) := by
  by_cases hshort : s.stack.length < needed word
  · rw [apply_of_length_lt hshort] at happly
    cases happly
  · rw [apply_onto_of_enough hword hshort, happly]
    rfl

-- A fault that is not about the depth is met again.
theorem apply_onto_error (hword : word ≠ "deep") {fault : StackFault}
    (happly : s.apply domain word = .error fault)
    (hdepth : ∀ word needed depth, fault ≠ .stackUnderflow word needed depth) (below : List Int) :
    (s.onto below).apply domain word = .error fault := by
  by_cases hshort : s.stack.length < needed word
  · rw [apply_of_length_lt hshort] at happly
    exact absurd (Except.error.inj happly).symm (hdepth _ _ _)
  · rw [apply_onto_of_enough hword hshort, happly]
    rfl

theorem foldlM_apply_onto (hdeep : "deep" ∉ words)
    (hwords : words.foldlM (apply domain) s = .ok last) (below : List Int) :
    words.foldlM (apply domain) (s.onto below) = .ok (last.onto below) := by
  induction words generalizing s with
  | nil =>
      obtain rfl : s = last := Except.ok.inj hwords
      rfl
  | cons word words ih =>
      obtain ⟨hword, hrest⟩ := List.ne_and_not_mem_of_not_mem_cons hdeep
      cases happly : s.apply domain word with
      | error fault =>
          rw [List.foldlM_cons, happly] at hwords
          cases hwords
      | ok next =>
          rw [StackMachine.foldlM_apply_cons happly] at hwords
          rw [StackMachine.foldlM_apply_cons (apply_onto_ok hword.symm happly below)]
          exact ih hrest hwords

-- What a line may answer, it may answer over more numbers as well.
theorem Charged.onto {answer : Except StackFault Unit} (h : Charged domain s words answer last)
    (hdeep : "deep" ∉ words)
    (hdepth : ∀ word needed depth, answer ≠ .error (.stackUnderflow word needed depth))
    (below : List Int) : Charged domain (s.onto below) words answer (last.onto below) := by
  cases h with
  | nothing hwords => exact .nothing (foldlM_apply_onto hdeep hwords below)
  | @first before after word last fault hsplit hbefore hword =>
      rw [hsplit, List.mem_append, List.mem_cons, not_or, not_or] at hdeep
      obtain ⟨hbeforeDeep, hne, -⟩ := hdeep
      refine .first hsplit (foldlM_apply_onto hbeforeDeep hbefore below) ?_
      refine apply_onto_error (Ne.symm hne) hword (fun word needed depth hfault => ?_) below
      exact hdepth word needed depth (congrArg _ hfault)

end Slate

namespace StackMachine

-- The same machine with more cells at the bottom of its stack.
structure Raised (below : List Int64) (machine raised : StackMachine) : Prop where
  cells_eq : raised.cells = below ++ machine.cells
  output_eq : raised.output = machine.output

theorem raised_iff {below : List Int64} {machine raised : StackMachine} :
    machine.Raised below raised ↔
      raised.slate = machine.slate.onto (below.reverse.map Int64.toInt) := by
  have hinjective : Function.Injective Int64.toInt := fun _ _ => Int64.toInt_inj.mp
  have hstack : raised.cells = below ++ machine.cells ↔
      raised.stack = machine.stack ++ below.reverse := by
    rw [cells, cells, ← List.reverse_inj]
    simp
  simp only [slate, Slate.onto, Slate.mk.injEq, ← List.map_append,
    (List.map_injective_iff.mpr hinjective).eq_iff, ← hstack]
  exact ⟨fun h => ⟨h.cells_eq, h.output_eq⟩, fun h => ⟨h.1, h.2⟩⟩

theorem runLine_charged {set : MethodSet StackMachine}
    (hset : set.Binds (Handler.methods (H := StackMachine))) {machine : StackMachine}
    (hclean : machine.fault = none) (domain : Domain) (line : String) (journal : Journal) :
    let answer := ((runLine (.ofMethodSet set domain) machine line).run journal).1
    Slate.Charged domain machine.slate (Text.words line) answer.1 answer.2.slate := by
  intro answer
  obtain ⟨start, hanswer⟩ := runLine_outcome (.ofMethodSet set domain) machine line journal
  have hcharged := (runWords_charged hset start hclean domain (Text.words line)).2
  rwa [← hanswer] at hcharged

-- A line works on the top of the stack alone. Over more cells it does the same and leaves those
-- cells where they are, also when it stops at a word that nothing takes or that divides by zero.
-- Only the depth, which one word asks for, can make a difference.
theorem runLine_leaves_bottom (domain : Domain) (journal : Journal) :
    ∃ table, ((Handler.compileTable StackMachine domain).run journal).1 = .ok table ∧
    ∀ machine raised below line listener further, machine.fault = none → raised.fault = none →
      machine.Raised below raised → "deep" ∉ Text.words line →
      let answer := ((runLine table machine line).run listener).1
      let other := ((runLine table raised line).run further).1
      (answer.1 = .ok () → other.1 = .ok () ∧ answer.2.Raised below other.2) ∧
      ∀ word fault, fault = .unroutable (.unknownToken word) ∨ fault = .divisionByZero word →
        answer.1 = .error fault → other.1 = .error fault ∧ answer.2.Raised below other.2 := by
  obtain ⟨table, hcompile⟩ := Table.exists_of_faultless methods_faultless domain journal
  obtain ⟨set, -, hset, -, rfl⟩ := Table.exists_binds hcompile
  refine ⟨_, hcompile, ?_⟩
  intro machine raised below line listener further hclean hraisedClean hraised hdeep answer other
  have hcharged := runLine_charged hset hclean domain line listener
  have hover := runLine_charged hset hraisedClean domain line further
  rw [raised_iff.mp hraised] at hover
  have hsame : (∀ word needed depth, answer.1 ≠ .error (.stackUnderflow word needed depth)) →
      other.1 = answer.1 ∧ answer.2.Raised below other.2 := by
    intro hdepth
    obtain ⟨houtcome, hslate⟩ := hover.unique (hcharged.onto hdeep hdepth _)
    exact ⟨houtcome, raised_iff.mpr hslate⟩
  refine ⟨fun hok => ?_, fun word fault hfault herror => ?_⟩
  · rw [← hok]
    exact hsame fun word needed depth => by simp [hok]
  · rw [← herror]
    refine hsame fun word needed depth hdepth => ?_
    obtain rfl := Except.error.inj (herror.symm.trans hdepth)
    simp at hfault

-- What is printed and swapped is on top of the two cells, and the division puts its operands back
-- there.
theorem runLine_leaves_bottom_division :
    ∃ table, ((Handler.compileTable StackMachine .i32).run .nothing).1 = .ok table ∧
      let machine : StackMachine := ⟨[3, 0], "", none⟩
      let raised : StackMachine := ⟨[3, 0, 9, 8], "", none⟩
      let other := ((runLine table raised "dup . swap / 7").run .nothing).1
      machine.Raised [8, 9] raised ∧ other.1 = .error (.divisionByZero "/") ∧
        other.2.slate = ⟨[0, 3, 9, 8], "3 "⟩ := by
  obtain ⟨table, hcompile, hleaves⟩ := runLine_leaves_bottom .i32 .nothing
  obtain ⟨set, -, hset, -, rfl⟩ := Table.exists_binds hcompile
  refine ⟨_, hcompile, ?_⟩
  intro machine raised other
  have hraised : machine.Raised [8, 9] raised := ⟨rfl, rfl⟩
  have hcharged : Slate.Charged .i32 machine.slate _ _ _ :=
    runLine_charged hset rfl .i32 "dup . swap / 7" .nothing
  have hsplit : Text.words "dup . swap / 7" = ["dup", ".", "swap"] ++ "/" :: ["7"] := by decide
  have hbefore : ["dup", ".", "swap"].foldlM (Slate.apply .i32) machine.slate =
      .ok ⟨[0, 3], "3 "⟩ := rfl
  obtain ⟨hfault, hslate⟩ := hcharged.unique (.first hsplit hbefore rfl)
  obtain ⟨-, hfails⟩ := hleaves machine raised [8, 9] "dup . swap / 7" .nothing .nothing rfl rfl
    hraised (by decide)
  obtain ⟨herror, hleft⟩ := hfails "/" _ (.inr rfl) hfault
  refine ⟨hraised, herror, ?_⟩
  rw [raised_iff.mp hleft, hslate]
  rfl

end StackMachine

end Switchboard
