import Switchboard.Proofs.Command.Stack
import Switchboard.Proofs.Host.Output
import Switchboard.Proofs.StackMachine.Sequence

namespace Switchboard

namespace Host

variable (host : Host) (config : Config)

theorem withLog_log (outcome : Outcome) (journal further : Journal) :
    host.withLog config further outcome =
      { host.withLog config journal outcome with log := (host.withLog config further outcome).log }
    := by
  unfold withLog
  split_ifs <;> rfl

theorem execute_shown (order : Order) {files : SystemText → FileAnswer} {code : Option String}
    {journal : Journal} {answer : Except CommandFault Report}
    (hsource : order.command.source.answered files = .ok code)
    (hanswer : ((order.command.perform host.keepsLog host.fuel config code).run.run journal).1 =
      some answer) :
    ∃ after, ((host.execute order config journal).answered files).1 =
      some (host.withLog config after (host.shown order.format answer)) := by
  rcases hrun : (order.command.perform host.keepsLog host.fuel config code).run.run journal with
    ⟨result, after⟩
  rw [hrun] at hanswer
  obtain rfl : result = some answer := hanswer
  exact ⟨after, congrArg Prod.fst (execute_performed hsource hrun)⟩

end Host

namespace Command

theorem perform_joined (announce : Bool) (fuel : Nat) (config : Config) (code : Option String)
    (lines : List String) (journal : Journal) :
    (((Command.stack ["\n".intercalate lines]).perform announce fuel config code).run.run
        journal).1 =
      (((Command.stack lines).perform announce fuel config code).run.run journal).1 := by
  have hwords : ["\n".intercalate lines].flatMap Text.words = lines.flatMap Text.words := by
    have hnewline : ∀ c ∈ "\n".toList, Text.isBlank c = true := List.all_eq_true.mp rfl
    rw [List.flatMap_singleton, Text.words_intercalate (by decide) hnewline]
  rw [perform_stack, perform_stack, hwords]

end Command

namespace Host

open StackMachine

-- Where a line ends is of no account. A machine in any state, also with a fault pending, does with
-- two lines what it does with both of them as one that is cut by blanks. So lines that are given
-- one by one come to the same as all of them in one text.
theorem execute_joins_lines :
    (∀ (table : Table StackMachine) machine gap, gap ≠ "" →
      (∀ c ∈ gap.toList, Text.isBlank c = true) → ∀ before after listener further last,
      ((runLine table machine (before ++ gap ++ after)).run listener).1 =
        andThen ((runLine table machine before).run further).1
          fun next => ((runLine table next after).run last).1) ∧
    ∀ lines config journal,
      (∀ announce fuel code,
        let answer (given : List String) :=
          (((Command.stack given).perform announce fuel config code).run.run journal).1
        answer ["\n".intercalate lines] = answer lines ∧ answer lines ≠ none) ∧
      ∀ (host : Host) format files,
        let outcome (given : List String) :=
          ((host.execute ⟨.stack given, format⟩ config journal).answered files).1
        ∃ told joined, outcome lines = some told ∧
          outcome ["\n".intercalate lines] = some joined ∧
          joined = { told with log := joined.log } := by
  refine ⟨fun table machine gap hne hgap before after listener further last =>
    runLine_andThen table machine hne hgap before after listener further last, ?_⟩
  intro lines config journal
  refine ⟨?_, ?_⟩
  · intro announce fuel code answer
    have hlines : answer lines = some _ :=
      Command.perform_stack announce fuel config code lines journal
    refine ⟨Command.perform_joined announce fuel config code lines journal, ?_⟩
    rw [hlines]
    exact nofun
  · intro host format files outcome
    have hlines := Command.perform_stack host.keepsLog host.fuel config none lines journal
    have hjoined :=
      (Command.perform_joined host.keepsLog host.fuel config none lines journal).trans hlines
    have hsource : ∀ given, (Command.stack given).source.answered files = .ok none := fun _ => rfl
    obtain ⟨after, htold⟩ := host.execute_shown config ⟨.stack lines, format⟩ (hsource _) hlines
    obtain ⟨further, hother⟩ := host.execute_shown config
      ⟨.stack ["\n".intercalate lines], format⟩ (hsource _) hjoined
    exact ⟨_, _, htold, hother, host.withLog_log config _ after further⟩

-- A fault is still pending behind a line of blanks. It ends the next line after one word, and so it
-- ends both lines in one.
theorem execute_joins_lines_pending :
    ∃ table, ((Handler.compileTable StackMachine .i64).run .nothing).1 = .ok table ∧
      let machine : StackMachine := ⟨[], "", some (.stackUnderflow "+" 2 0)⟩
      let answer := ((runLine table machine (" " ++ "\n\u3000" ++ "1 2")).run .nothing).1
      answer.1 = .error (.stackUnderflow "+" 2 0) ∧ answer.2.slate = ⟨[1], ""⟩ := by
  obtain ⟨table, hcompile⟩ := Table.exists_of_faultless methods_faultless .i64 .nothing
  obtain ⟨set, -, hset, -, rfl⟩ := Table.exists_binds hcompile
  refine ⟨_, hcompile, ?_⟩
  intro machine answer
  have hgap : ∀ c ∈ "\n\u3000".toList, Text.isBlank c = true := List.all_eq_true.mp rfl
  have hjoined := execute_joins_lines.1 (.ofMethodSet set .i64) machine "\n\u3000" (by decide) hgap
    " " "1 2" .nothing .nothing .nothing
  have hblank : Text.words " " = [] := by decide
  have hfirst : ((runLine (.ofMethodSet set .i64) machine " ").run .nothing).1 =
      (.ok (), machine) := by
    rw [runLine_words _ _ _ .nothing .nothing, hblank]
    rfl
  have hwords : Text.words "1 2" = ["1", "2"] := by decide
  have happly : machine.slate.apply .i64 "1" = .ok ⟨[1], ""⟩ := rfl
  obtain ⟨next, -, hslate, hrun⟩ := runWords_stale hset .nothing rfl happly ["2"]
  have hanswer : answer = (.error (.stackUnderflow "+" 2 0), next) := by
    refine hjoined.trans ?_
    rw [hfirst]
    simp only [andThen]
    rw [runLine_words _ _ _ .nothing .nothing, hwords]
    exact hrun
  rw [hanswer]
  exact ⟨rfl, hslate⟩

end Host

end Switchboard
