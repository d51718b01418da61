import Switchboard.Proofs.StackMachine.Reference
import Switchboard.Proofs.Table.Chain
import Switchboard.Proofs.Text.Words

namespace Switchboard.StackMachine

open Method

def slate (machine : StackMachine) : Slate := ⟨machine.stack.map Int64.toInt, machine.output⟩

-- What a word that is no number does to the machine.
def perform (machine : StackMachine) : String → StackMachine
  | "+" => machine.plus
  | "-" => machine.minus
  | "*" => machine.times
  | "/" => machine.divide
  | "%" => machine.remainder
  | "." => machine.print
  | "drop" => machine.drop
  | "dup" => machine.dup
  | "deep" => machine.deep
  | "swap" => machine.swap
  | _ => machine

-- What an operator leaves behind: all that the reference says, or else its fault and no change.
def Answers (machine next : StackMachine) : Except StackFault Slate → Prop
  | .ok s => next.fault = none ∧ next.slate = s
  | .error fault => next = { machine with fault := some fault }

variable {machine : StackMachine} {domain : Domain} {word : String} {s : Slate}

section Words

variable (hclean : machine.fault = none)

include hclean

-- The operands go back where they were when there is no result.
theorem answers_binary {op : Int → Int → Int} {cell : Int64 → Int64 → Option Int64}
    (hop : Slate.arithmetic? word = some op) (hneeded : Slate.needed word = 2)
    (hnone : ∀ left right, cell left right = none ↔ (word = "/" ∨ word = "%") ∧ right = 0)
    (hsome : ∀ left right value, cell left right = some value →
      value.toInt = Slate.wrap (op left.toInt right.toInt)) :
    machine.Answers (binary word cell machine) (machine.slate.apply domain word) := by
  obtain ⟨stack, output, fault⟩ := machine
  match stack with
  | right :: left :: rest =>
      have hzero : right.toInt = 0 ↔ right = 0 := by rw [← Int64.toInt_zero, Int64.toInt_inj]
      simp only [slate, List.map_cons, Slate.apply_arithmetic hop hneeded, hzero,
        ← hnone left right]
      simp only [binary]
      cases hcell : cell left right with
      | none => exact rfl
      | some value => exact ⟨hclean, by simp [slate, hsome left right value hcell]⟩
  | [single] =>
      rw [Slate.apply_of_length_lt (by simp [slate, hneeded]), hneeded]
      exact rfl
  | [] =>
      rw [Slate.apply_of_length_lt (by simp [slate, hneeded]), hneeded]
      exact rfl

theorem answers_plus : machine.Answers machine.plus (machine.slate.apply domain "+") := by
  refine answers_binary hclean rfl rfl (by simp) ?_
  intro left right value hvalue
  rw [← Option.some.inj hvalue, Int64.toInt_add]
  rfl

theorem answers_minus : machine.Answers machine.minus (machine.slate.apply domain "-") := by
  refine answers_binary hclean rfl rfl (by simp) ?_
  intro left right value hvalue
  rw [← Option.some.inj hvalue, Int64.toInt_sub]
  rfl

theorem answers_times : machine.Answers machine.times (machine.slate.apply domain "*") := by
  refine answers_binary hclean rfl rfl (by simp) ?_
  intro left right value hvalue
  rw [← Option.some.inj hvalue, Int64.toInt_mul]
  rfl

theorem answers_divide : machine.Answers machine.divide (machine.slate.apply domain "/") := by
  refine answers_binary hclean rfl rfl (by simp) ?_
  intro left right value hvalue
  obtain ⟨-, hvalue⟩ := Option.ite_none_left_eq_some.mp hvalue
  rw [← Option.some.inj hvalue, Int64.toInt_div]
  rfl

theorem answers_remainder : machine.Answers machine.remainder (machine.slate.apply domain "%") := by
  refine answers_binary hclean rfl rfl (by simp) ?_
  intro left right value hvalue
  obtain ⟨-, hvalue⟩ := Option.ite_none_left_eq_some.mp hvalue
  rw [← Option.some.inj hvalue, Slate.wrap, ← Int64.toInt_mod, Int64.toInt_bmod]

theorem answers_print : machine.Answers machine.print (machine.slate.apply domain ".") := by
  obtain ⟨stack, output, fault⟩ := machine
  cases stack with
  | nil => exact rfl
  | cons top rest => exact ⟨hclean, rfl⟩

theorem answers_drop : machine.Answers machine.drop (machine.slate.apply domain "drop") := by
  obtain ⟨stack, output, fault⟩ := machine
  cases stack with
  | nil => exact rfl
  | cons top rest => exact ⟨hclean, rfl⟩

theorem answers_dup : machine.Answers machine.dup (machine.slate.apply domain "dup") := by
  obtain ⟨stack, output, fault⟩ := machine
  cases stack with
  | nil => exact rfl
  | cons top rest => exact ⟨hclean, rfl⟩

theorem answers_swap : machine.Answers machine.swap (machine.slate.apply domain "swap") := by
  obtain ⟨stack, output, fault⟩ := machine
  match stack with
  | top :: next :: rest => exact ⟨hclean, rfl⟩
  | [single] => exact rfl
  | [] => exact rfl

theorem answers_deep : machine.Answers machine.deep (machine.slate.apply domain "deep") := by
  have hlt : min machine.depth largestCell < 2 ^ 63 :=
    Nat.lt_of_le_of_lt (Nat.min_le_right _ _) (by decide)
  refine ⟨hclean, ?_⟩
  simp only [deep, push, slate, List.map_cons, Int64.toInt_ofNat_of_lt hlt]
  simp only [depth, List.length_map]

theorem answers_perform (hword : word ∈ Slate.vocabulary) :
    machine.Answers (machine.perform word) (machine.slate.apply domain word) := by
  simp only [Slate.vocabulary, List.mem_cons, List.not_mem_nil, or_false] at hword
  rcases hword with rfl | rfl | rfl | rfl | rfl | rfl | rfl | rfl | rfl | rfl
  · exact answers_plus hclean
  · exact answers_minus hclean
  · exact answers_times hclean
  · exact answers_divide hclean
  · exact answers_remainder hclean
  · exact answers_print hclean
  · exact answers_drop hclean
  · exact answers_dup hclean
  · exact answers_deep hclean
  · exact answers_swap hclean

end Words

theorem methods_faultless : Faultless (Handler.methods (H := StackMachine)) := by decide

theorem actions_perform :
    Perform (Handler.methods (H := StackMachine)) Slate.vocabulary perform := rfl

section Dispatch

variable {set : MethodSet StackMachine} (hset : set.Binds (Handler.methods (H := StackMachine)))
  (machine) (domain) (journal : Journal)

include hset

theorem dispatch_number (hword : word ∉ Slate.vocabulary) :
    (((Table.ofMethodSet set domain).dispatch machine word).run journal).1 =
      match domain.parse word with
      | some value => (.ok (.integer value), machine.push value)
      | none => (.error (.unknownToken word), machine) := by
  have hnone := actions_perform.token_ne hword
  have hmem : Method.integerSink push ∈ Handler.methods (H := StackMachine) := List.mem_cons_self
  cases hvalue : domain.parse word with
  | some value => exact Table.dispatch_integer domain hset machine journal hnone hmem rfl rfl hvalue
  | none =>
      exact Table.dispatch_unknown domain hset machine journal hnone (.inr hvalue) (by decide)

-- A word is taken, and the machine answers as the reference says, or nothing takes it.
theorem dispatch_cases (hclean : machine.fault = none) (word : String) :
    let answer := (((Table.ofMethodSet set domain).dispatch machine word).run journal).1
    (∃ route next, answer = (.ok route, next) ∧
      machine.Answers next (machine.slate.apply domain word)) ∨
    ∃ cause, answer = (.error cause, machine) ∧
      machine.slate.apply domain word = .error (.unroutable cause) := by
  intro answer
  by_cases hword : word ∈ Slate.vocabulary
  · obtain ⟨slot, hdispatch⟩ :=
      Table.dispatch_perform domain hset machine journal actions_perform hword
    exact .inl ⟨_, _, hdispatch, answers_perform hclean hword⟩
  · have hdispatch := dispatch_number machine domain hset journal hword
    rw [Slate.apply_number hword]
    cases hvalue : domain.parse word with
    | some value =>
        rw [hvalue] at hdispatch
        exact .inl ⟨_, _, hdispatch, hclean, rfl⟩
    | none =>
        rw [hvalue] at hdispatch
        exact .inr ⟨_, hdispatch, rfl⟩

section Run

variable {machine} {domain} {fault : StackFault} (hclean : machine.fault = none)

include hclean

theorem runWords_cons_ok (happly : machine.slate.apply domain word = .ok s)
    (rest : List String) : ∃ (next : StackMachine) (listener : Journal),
      next.fault = none ∧ next.slate = s ∧
      ((runWords (.ofMethodSet set domain) machine (word :: rest)).run journal).1 =
        ((runWords (.ofMethodSet set domain) next rest).run listener).1 := by
  obtain ⟨route, next, hdispatch, hanswers⟩ | ⟨cause, -, hcause⟩ :=
    dispatch_cases machine domain hset journal hclean word
  · rw [happly] at hanswers
    refine ⟨next, (((Table.ofMethodSet set domain).dispatch machine word).run journal).2,
      hanswers.1, hanswers.2, ?_⟩
    simp only [runWords, Logged.bind_outcome, hdispatch, hanswers.1]
  · rw [happly] at hcause
    cases hcause

-- The fault is handed over, so nothing of the word is left in the machine.
theorem runWords_cons_error (happly : machine.slate.apply domain word = .error fault)
    (rest : List String) :
    ((runWords (.ofMethodSet set domain) machine (word :: rest)).run journal).1 =
      (.error fault, machine) := by
  obtain ⟨route, next, hdispatch, hanswers⟩ | ⟨cause, hdispatch, hcause⟩ :=
    dispatch_cases machine domain hset journal hclean word
  · rw [happly] at hanswers
    obtain rfl : next = { machine with fault := some fault } := hanswers
    simp only [runWords, Logged.bind_outcome, hdispatch]
    rw [← hclean]
    rfl
  · rw [happly] at hcause
    cases hcause
    simp only [runWords, Logged.bind_outcome, hdispatch]
    rfl

theorem runWords_append (before after : List String)
    (hbefore : before.foldlM (Slate.apply domain) machine.slate = .ok s) :
    ∃ (next : StackMachine) (listener : Journal), next.fault = none ∧ next.slate = s ∧
      ((runWords (.ofMethodSet set domain) machine (before ++ after)).run journal).1 =
        ((runWords (.ofMethodSet set domain) next after).run listener).1 := by
  induction before generalizing machine journal with
  | nil => exact ⟨machine, journal, hclean, Except.ok.inj hbefore, rfl⟩
  | cons word before ih =>
      rw [List.foldlM_cons] at hbefore
      cases happly : machine.slate.apply domain word with
      | error fault =>
          rw [happly] at hbefore
          cases hbefore
      | ok middle =>
          rw [happly] at hbefore
          obtain ⟨next, listener, hnext, rfl, hrun⟩ :=
            runWords_cons_ok hset journal hclean happly (before ++ after)
          obtain ⟨last, further, hlast, hslate, hrest⟩ := ih listener hnext hbefore
          exact ⟨last, further, hlast, hslate, hrun.trans hrest⟩

theorem runWords_ok {words : List String}
    (hwords : words.foldlM (Slate.apply domain) machine.slate = .ok s) :
    ∃ next : StackMachine, next.fault = none ∧ next.slate = s ∧
      ((runWords (.ofMethodSet set domain) machine words).run journal).1 = (.ok (), next) := by
  obtain ⟨next, listener, hnext, hslate, hrun⟩ :=
    runWords_append hset journal hclean words [] hwords
  rw [List.append_nil] at hrun
  exact ⟨next, hnext, hslate, hrun⟩

theorem runWords_error {before after : List String}
    (hbefore : before.foldlM (Slate.apply domain) machine.slate = .ok s)
    (hword : s.apply domain word = .error fault) :
    ∃ next : StackMachine, next.fault = none ∧ next.slate = s ∧
      ((runWords (.ofMethodSet set domain) machine (before ++ word :: after)).run journal).1 =
        (.error fault, next) := by
  obtain ⟨next, listener, hnext, rfl, hrun⟩ :=
    runWords_append hset journal hclean before (word :: after) hbefore
  exact ⟨next, hnext, rfl, hrun.trans (runWords_cons_error hset listener hnext hword after)⟩

end Run

end Dispatch

theorem foldlM_apply_cons {next : Slate} (happly : s.apply domain word = .ok next)
    (rest : List String) :
    (word :: rest).foldlM (Slate.apply domain) s = rest.foldlM (Slate.apply domain) next := by
  rw [List.foldlM_cons, happly]
  rfl

-- Words that cannot all be applied have a first one that fails.
theorem exists_first_failure (words : List String) (s : Slate) :
    (∃ last, words.foldlM (Slate.apply domain) s = .ok last) ∨
    ∃ before word after last fault, words = before ++ word :: after ∧
      before.foldlM (Slate.apply domain) s = .ok last ∧
      last.apply domain word = .error fault := by
  induction words generalizing s with
  | nil => exact .inl ⟨s, rfl⟩
  | cons word words ih =>
      cases happly : s.apply domain word with
      | error fault => exact .inr ⟨[], word, words, s, fault, rfl, rfl, happly⟩
      | ok next =>
          have hstep := foldlM_apply_cons happly
          obtain ⟨last, hlast⟩ | ⟨before, bad, after, last, fault, rfl, hbefore, hbad⟩ := ih next
          · exact .inl ⟨last, (hstep words).trans hlast⟩
          · exact .inr ⟨word :: before, bad, after, last, fault, rfl,
              (hstep before).trans hbefore, hbad⟩

-- A line is split at its blanks, and its words are applied one after another. The line succeeds
-- when all of them do. Else the first that fails gives its fault, and the machine is as it was
-- after the words before.
theorem runLine_applies_words (domain : Domain) (journal : Journal) :
    ∃ table, ((Handler.compileTable StackMachine domain).run journal).1 = .ok table ∧
    ∀ machine line listener, machine.fault = none →
      let words := Text.words line
      let answer := ((runLine table machine line).run listener).1
      (∀ parts, Text.SplitsInto line.toList (parts.map String.toList) ↔ parts = words) ∧
      answer.2.fault = none ∧
      (∀ s, answer.1 = .ok () ∧ answer.2.slate = s ↔
        words.foldlM (Slate.apply domain) machine.slate = .ok s) ∧
      ∀ fault s, answer.1 = .error fault ∧ answer.2.slate = s ↔
        ∃ before word after, words = before ++ word :: after ∧
          before.foldlM (Slate.apply domain) machine.slate = .ok s ∧
          s.apply domain word = .error fault := by
  obtain ⟨table, hcompile⟩ := Table.exists_of_faultless methods_faultless domain journal
  obtain ⟨set, -, hset, -, rfl⟩ := Table.exists_binds hcompile
  refine ⟨_, hcompile, ?_⟩
  intro machine line listener hclean words answer
  obtain ⟨start, hanswer⟩ : ∃ start, answer =
      ((runWords (.ofMethodSet set domain) machine words).run start).1 := ⟨_, rfl⟩
  refine ⟨fun parts => Text.splitsInto_toList_iff, ?_⟩
  rw [hanswer]
  obtain ⟨last, hwords⟩ | ⟨before, word, after, last, fault, hsplit, hbefore, hword⟩ :=
    exists_first_failure words machine.slate
  · obtain ⟨next, hnext, rfl, hrun⟩ := runWords_ok hset start hclean hwords
    rw [hrun]
    refine ⟨hnext, fun s => ?_, fun fault s => ?_⟩
    · simp [hwords]
    · simp only [reduceCtorEq, false_and, false_iff]
      rintro ⟨before, word, after, hsplit, hbefore, hword⟩
      obtain ⟨other, -, -, herror⟩ := runWords_error hset start hclean hbefore hword
      rw [← hsplit, hrun] at herror
      cases herror
  · obtain ⟨next, hnext, rfl, hrun⟩ := runWords_error hset start hclean hbefore hword
    rw [hsplit, hrun]
    refine ⟨hnext, fun s => ?_, fun found s => ?_⟩
    · simp only [reduceCtorEq, false_and, false_iff]
      intro hwords
      obtain ⟨other, -, -, hok⟩ := runWords_ok hset start hclean hwords
      rw [hrun] at hok
      cases hok
    · constructor
      · rintro ⟨⟨⟩, rfl⟩
        exact ⟨before, word, after, rfl, hbefore, hword⟩
      · rintro ⟨others, bad, rest, hother, hothers, hbad⟩
        obtain ⟨other, -, rfl, herror⟩ := runWords_error hset start hclean hothers hbad
        rw [← hother, hrun] at herror
        cases herror
        exact ⟨rfl, rfl⟩

-- The smallest cell has no remainder by -1 and is its own quotient. The division by nothing puts
-- both of its operands back, and what was printed before stays.
theorem runLine_applies_words_restored :
    ∃ table, ((Handler.compileTable StackMachine .i8).run .nothing).1 = .ok table ∧
      let machine : StackMachine := ⟨[Int64.minValue], "", none⟩
      let answer := ((runLine table machine "dup -1 % . -1 / 0 % 7").run .nothing).1
      answer.1 = .error (.divisionByZero "%") ∧ answer.2.fault = none ∧
        answer.2.slate = ⟨[0, -9223372036854775808], "0 "⟩ := by
  obtain ⟨table, hcompile, hline⟩ := runLine_applies_words .i8 .nothing
  obtain ⟨-, hclean, -, hfails⟩ :=
    hline ⟨[Int64.minValue], "", none⟩ "dup -1 % . -1 / 0 % 7" .nothing rfl
  have hsplit : Text.words "dup -1 % . -1 / 0 % 7" =
      ["dup", "-1", "%", ".", "-1", "/", "0"] ++ "%" :: ["7"] := by decide
  have hbefore : ["dup", "-1", "%", ".", "-1", "/", "0"].foldlM (Slate.apply .i8)
      ⟨[-9223372036854775808], ""⟩ = .ok ⟨[0, -9223372036854775808], "0 "⟩ := by rfl
  obtain ⟨herror, hslate⟩ :=
    (hfails (.divisionByZero "%") ⟨[0, -9223372036854775808], "0 "⟩).mpr
      ⟨_, _, _, hsplit, hbefore, by rfl⟩
  exact ⟨table, hcompile, herror, hclean, hslate⟩

end Switchboard.StackMachine
