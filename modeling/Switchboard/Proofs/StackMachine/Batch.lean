import Switchboard.Proofs.StackMachine.Frame
import Switchboard.Proofs.StackMachine.Sequence

namespace Switchboard

-- Only a word without a meaning of its own can be one that nothing takes.
theorem Slate.not_mem_vocabulary {domain : Domain} {s : Slate} {word : String}
    {cause : DispatchError} (h : s.apply domain word = .error (.unroutable cause)) :
    word ∉ vocabulary := by
  have hstep := s.step_apply domain word
  rw [h] at hstep
  cases hstep with
  | unknown hword _ => exact hword

namespace StackMachine

-- What many tokens at once come to, if the same tokens come to this as the words of a line. A fault
-- ends a line, and is still pending behind the last of the tokens.
def BatchedAs (count : Nat) (batch : Except DispatchError Nat × StackMachine) :
    Except StackFault Unit × StackMachine → Prop
  | (.ok (), next) => batch = (.ok count, next) ∧ next.fault = none
  | (.error (.unroutable cause), next) => batch = (.error cause, next)
  | (.error _, _) => batch.2.fault ≠ none

section Batch

variable {set : MethodSet StackMachine} (hset : set.Binds (Handler.methods (H := StackMachine)))
  (domain : Domain) {machine : StackMachine}

include hset

-- No word clears a fault that is pending. It may put its own in its place.
theorem dispatch_pending (hpending : machine.fault ≠ none) (word : String) (journal : Journal) :
    (((Table.ofMethodSet set domain).dispatch machine word).run journal).1.2.fault ≠ none := by
  obtain ⟨route, next, hdispatch, hfollows⟩ | ⟨cause, hdispatch, -⟩ :=
    dispatch_follows hset journal machine domain word
  · rw [hdispatch]
    cases happly : machine.slate.apply domain word with
    | ok s =>
        rw [happly] at hfollows
        rwa [hfollows.1]
    | error fault =>
        rw [happly] at hfollows
        obtain rfl : next = { machine with fault := some fault } := hfollows
        simp
  · rwa [hdispatch]

theorem dispatchAllFrom_pending (hpending : machine.fault ≠ none) (count : Nat)
    (tokens : List String) (journal : Journal) :
    (((Table.ofMethodSet set domain).dispatchAllFrom count machine tokens).run
      journal).1.2.fault ≠ none := by
  exact Table.dispatchAllFrom_keeps (motive := fun machine : StackMachine => machine.fault ≠ none)
    (fun _ word listener hnow => dispatch_pending hset domain hnow word listener) hpending count
    tokens journal

theorem apply_ne_unroutable {word : String} {journal : Journal} {route : Route}
    {next : StackMachine}
    (hdispatch : (((Table.ofMethodSet set domain).dispatch machine word).run journal).1 =
      (.ok route, next)) (cause : DispatchError) :
    machine.slate.apply domain word ≠ .error (.unroutable cause) := by
  intro happly
  have hword := Slate.not_mem_vocabulary happly
  have hnumber := dispatch_number machine domain hset journal hword
  rw [Slate.apply_number hword] at happly
  cases hvalue : domain.parse word with
  | some value =>
      rw [hvalue] at happly
      cases happly
  | none =>
      rw [hvalue] at hnumber
      cases hnumber.symm.trans hdispatch

theorem dispatchAllFrom_batchedAs (hclean : machine.fault = none) (count : Nat)
    (words : List String) (listener further : Journal) :
    BatchedAs (count + words.length)
      (((Table.ofMethodSet set domain).dispatchAllFrom count machine words).run listener).1
      ((runWords (.ofMethodSet set domain) machine words).run further).1 := by
  induction words generalizing machine count listener further with
  | nil => exact ⟨rfl, hclean⟩
  | cons word rest ih =>
      have hcount : count + (word :: rest).length = count + 1 + rest.length := by
        rw [List.length_cons]
        omega
      obtain ⟨route, next, hdispatch, hanswers⟩ | ⟨cause, hdispatch, -⟩ :=
        dispatch_cases machine domain hset listener hclean word
      · have hsame := (Table.dispatch_listener _ machine word further listener).trans hdispatch
        simp only [Table.dispatchAllFrom, runWords, Logged.bind_outcome, hdispatch, hsame]
        cases happly : machine.slate.apply domain word with
        | ok s =>
            rw [happly] at hanswers
            simp only [hanswers.1, hcount]
            exact ih hanswers.1 (count + 1) _ _
        | error fault =>
            rw [happly] at hanswers
            obtain rfl : next = { machine with fault := some fault } := hanswers
            have hpending : ({ machine with fault := some fault } : StackMachine).fault ≠ none := by
              simp
            have hbatch := dispatchAllFrom_pending hset domain hpending (count + 1) rest
            cases fault with
            | stackUnderflow => exact hbatch _
            | divisionByZero => exact hbatch _
            | unroutable cause =>
                exact absurd happly (apply_ne_unroutable hset domain hdispatch cause)
      · have hsame := (Table.dispatch_listener _ machine word further listener).trans hdispatch
        simp only [Table.dispatchAllFrom, runWords, Logged.bind_outcome, hdispatch, hsame]
        exact rfl

end Batch

-- A line succeeds exactly when its words, dispatched as one batch, are all taken and leave no fault
-- behind, and then both leave the same. Where a line ends at a word that nothing takes, so does the
-- batch. Where it ends at a fault, the batch goes on, but the fault does not get lost.
theorem dispatchAll_follows_line (domain : Domain) (journal : Journal) :
    ∃ table, ((Handler.compileTable StackMachine domain).run journal).1 = .ok table ∧
    ∀ machine line listener further, machine.fault = none →
      let words := Text.words line
      let answer := ((runLine table machine line).run listener).1
      let batch := ((table.dispatchAll machine words).run further).1
      (answer.1 = .ok () ↔ batch.1 = .ok words.length ∧ batch.2.fault = none) ∧
      (answer.1 = .ok () → batch.2 = answer.2) ∧
      ∀ cause, answer.1 = .error (.unroutable cause) → batch = (.error cause, answer.2) := by
  obtain ⟨table, hcompile⟩ := Table.exists_of_faultless methods_faultless domain journal
  obtain ⟨set, -, hset, -, rfl⟩ := Table.exists_binds hcompile
  refine ⟨_, hcompile, ?_⟩
  intro machine line listener further hclean words answer batch
  have hbatch : BatchedAs (0 + words.length) batch answer := by
    have hwords := dispatchAllFrom_batchedAs hset domain hclean 0 words further listener
    rwa [← runLine_words] at hwords
  generalize answer = answer at hbatch ⊢
  generalize batch = batch at hbatch ⊢
  rw [Nat.zero_add] at hbatch
  match answer, hbatch with
  | (.ok (), next), ⟨hall, hnext⟩ =>
      rw [hall]
      exact ⟨⟨fun _ => ⟨rfl, hnext⟩, fun _ => rfl⟩, fun _ => rfl, nofun⟩
  | (.error (.unroutable cause), next), hall =>
      obtain rfl : batch = (.error cause, next) := hall
      refine ⟨⟨nofun, fun h => nomatch h.1⟩, nofun, fun other hother => ?_⟩
      cases hother
      rfl
  | (.error (.stackUnderflow word needed depth), next), hpending =>
      exact ⟨⟨nofun, fun h => absurd h.2 hpending⟩, nofun, nofun⟩
  | (.error (.divisionByZero word), next), hpending =>
      exact ⟨⟨nofun, fun h => absurd h.2 hpending⟩, nofun, nofun⟩

-- The sum is on the stack when the second word stops the batch, as it stops the line.
theorem dispatchAll_follows_line_unknown :
    ∃ table, ((Handler.compileTable StackMachine .i64).run .nothing).1 = .ok table ∧
      let machine : StackMachine := ⟨[2, 1], "", none⟩
      let batch := ((table.dispatchAll machine ["+", "nope", "4"]).run .nothing).1
      batch.1 = .error (.unknownToken "nope") ∧ batch.2.slate = ⟨[3], ""⟩ := by
  obtain ⟨table, hcompile, hfollows⟩ := dispatchAll_follows_line .i64 .nothing
  obtain ⟨set, -, hset, -, rfl⟩ := Table.exists_binds hcompile
  refine ⟨_, hcompile, ?_⟩
  intro machine batch
  have hwords : Text.words "+ nope 4" = ["+", "nope", "4"] := by decide
  have hcharged : Slate.Charged .i64 machine.slate _ _ _ :=
    runLine_charged hset rfl .i64 "+ nope 4" .nothing
  have hsplit : Text.words "+ nope 4" = ["+"] ++ "nope" :: ["4"] := hwords
  have hbefore : ["+"].foldlM (Slate.apply .i64) machine.slate = .ok ⟨[3], ""⟩ := rfl
  obtain ⟨hfault, hslate⟩ := hcharged.unique (.first hsplit hbefore rfl)
  obtain ⟨-, -, hstops⟩ := hfollows machine "+ nope 4" .nothing .nothing rfl
  have hbatch := hstops (.unknownToken "nope") hfault
  rw [hwords] at hbatch
  exact ⟨congrArg Prod.fst hbatch, (congrArg (·.2.slate) hbatch).trans hslate⟩

end StackMachine

end Switchboard
