import Switchboard.Proofs.Command.Faults
import Switchboard.Proofs.StackMachine.Charge

namespace Switchboard

-- Words fail as the first one of them that cannot be applied.
theorem Slate.foldlM_apply_error {domain : Domain} {s last : Slate} {before : List String}
    {word : String} {fault : StackFault}
    (hbefore : before.foldlM (Slate.apply domain) s = .ok last)
    (hword : last.apply domain word = .error fault) (after : List String) :
    (before ++ word :: after).foldlM (Slate.apply domain) s = .error fault := by
  rw [List.foldlM_append, hbefore]
  change List.foldlM (Slate.apply domain) last (word :: after) = _
  rw [List.foldlM_cons, hword]
  rfl

namespace Command

open StackMachine

-- What a run over a clean machine comes to, if words come to this when they are applied in turn.
def Follows (answer : Option (Except CommandFault StackMachine)) : Except StackFault Slate → Prop
  | .ok s => ∃ next : StackMachine, next.fault = none ∧ next.slate = s ∧ answer = some (.ok next)
  | .error fault => answer = some (.error (.stack fault))

theorem runLine_answer (table : Table StackMachine) (machine : StackMachine) (line : String)
    (journal : Journal) :
    ((runLine table machine line).run.run journal).1 = some
      (match ((machine.runLine table line).run journal).1 with
      | (.error fault, _) => .error (.stack fault)
      | (.ok (), next) => .ok next) := by
  rw [runLine, Run.run_bind_logged]
  rcases ((machine.runLine table line).run journal).1 with ⟨_ | _, _⟩ <;> rfl

section Lines

variable {set : MethodSet StackMachine} (hset : set.Binds (Handler.methods (H := StackMachine)))
  (domain : Domain) {machine : StackMachine} (hclean : machine.fault = none) (journal : Journal)

include hset hclean

theorem runLine_follows (line : String) :
    Follows ((runLine (.ofMethodSet set domain) machine line).run.run journal).1
      ((Text.words line).foldlM (Slate.apply domain) machine.slate) := by
  obtain ⟨start, hline⟩ := runLine_outcome (.ofMethodSet set domain) machine line journal
  obtain ⟨hnext, hcharged⟩ := runWords_charged hset start hclean domain (Text.words line)
  rw [runLine_answer, hline]
  generalize ((runWords (.ofMethodSet set domain) machine (Text.words line)).run start).1 = answer
    at hnext hcharged
  obtain ⟨outcome, next⟩ := answer
  cases hcharged with
  | nothing hwords =>
      rw [hwords]
      exact ⟨next, hnext, rfl, rfl⟩
  | @first before after word last fault hsplit hbefore hword =>
      rw [hsplit, Slate.foldlM_apply_error hbefore hword after]
      rfl

-- The lines are read as one. The one that fails is the last that is looked at.
theorem runLines_follows (lines : List String) :
    Follows ((runLines (.ofMethodSet set domain) machine lines).run.run journal).1
      ((lines.flatMap Text.words).foldlM (Slate.apply domain) machine.slate) := by
  induction lines generalizing machine journal with
  | nil => exact ⟨machine, hclean, rfl, rfl⟩
  | cons line rest ih =>
      have hline := runLine_follows hset domain hclean journal line
      rw [runLines, Run.run_bind, List.flatMap_cons, List.foldlM_append]
      rcases hrun : (runLine (.ofMethodSet set domain) machine line).run.run journal with
        ⟨answer, after⟩
      rw [hrun] at hline
      cases hwords : (Text.words line).foldlM (Slate.apply domain) machine.slate with
      | error fault =>
          rw [hwords] at hline
          obtain rfl : answer = some (.error (.stack fault)) := hline
          rfl
      | ok s =>
          rw [hwords] at hline
          obtain ⟨next, hnext, rfl, rfl⟩ := hline
          exact ih hnext after

end Lines

theorem stackTable_answer (config : Config) (journal : Journal) :
    ∃ (set : MethodSet StackMachine) (after : Journal),
      set.Binds (Handler.methods (H := StackMachine)) ∧
      (stackTable config).run.run journal =
        (some (.ok (.ofMethodSet set config.domain)), after) := by
  obtain ⟨table, hcompile⟩ := Table.exists_of_faultless methods_faultless config.domain journal
  obtain ⟨set, -, hset, -, rfl⟩ := Table.exists_binds hcompile
  refine ⟨set, ((Handler.compileTable StackMachine config.domain).run journal).2, hset, ?_⟩
  rw [stackTable, Run.run_bind_logged, Handler.compileTable, hcompile]
  rfl

-- All lines together are one program for a new machine, and its first fault is the fault of the
-- command, whatever was printed before.
theorem perform_stack (announce : Bool) (fuel : Nat) (config : Config) (code : Option String)
    (lines : List String) (journal : Journal) :
    (((Command.stack lines).perform announce fuel config code).run.run journal).1 = some
      (match (lines.flatMap Text.words).foldlM (Slate.apply config.domain) ⟨[], ""⟩ with
      | .ok s => .ok (.stack (Text.trimEnd s.output) (s.stack.reverse.map Int64.ofInt))
      | .error fault => .error (.stack fault)) := by
  obtain ⟨set, after, hset, htable⟩ := stackTable_answer config journal
  have hlines := runLines_follows hset config.domain (show empty.fault = none from rfl) after lines
  rw [perform, stackReport, Run.run_bind, htable]
  simp only [Run.run_bind]
  rcases hrun : (runLines (.ofMethodSet set config.domain) empty lines).run.run after with
    ⟨answer, last⟩
  rw [hrun] at hlines
  change Follows answer (List.foldlM (Slate.apply config.domain) ⟨[], ""⟩ _) at hlines
  cases hwords : (lines.flatMap Text.words).foldlM (Slate.apply config.domain) ⟨[], ""⟩ with
  | error fault =>
      rw [hwords] at hlines
      obtain rfl : answer = some (.error (.stack fault)) := hlines
      rfl
  | ok s =>
      rw [hwords] at hlines
      obtain ⟨next, -, rfl, rfl⟩ := hlines
      have hcells : next.slate.stack.reverse.map Int64.ofInt = next.cells := by
        simp [StackMachine.slate, StackMachine.cells, ← List.map_reverse, Function.comp_def]
      simp only [hcells]
      rfl

end Command

end Switchboard
