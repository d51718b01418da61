import Switchboard.Proofs.Table.Chain
import Switchboard.Proofs.Text.Words
import Switchboard.StackMachine

namespace Switchboard.StackMachine

-- Two things done one after the other. The second is done with what the first leaves, and only if
-- the first succeeds.
def andThen (first : Except StackFault Unit × StackMachine)
    (next : StackMachine → Except StackFault Unit × StackMachine) :
    Except StackFault Unit × StackMachine :=
  match first with
  | (.error fault, machine) => (.error fault, machine)
  | (.ok (), machine) => next machine

variable (table : Table StackMachine) (machine : StackMachine)

-- Who listens makes no difference to what words do.
theorem runWords_listener (words : List String) (listener further : Journal) :
    ((runWords table machine words).run listener).1 =
      ((runWords table machine words).run further).1 := by
  induction words generalizing machine listener further with
  | nil => rfl
  | cons word rest ih =>
      simp only [runWords, Logged.bind_outcome,
        table.dispatch_listener machine word listener further]
      rcases ((table.dispatch machine word).run further).1 with ⟨cause | route, next⟩
      · rfl
      · cases hfault : next.fault with
        | some fault => simp only [hfault]; rfl
        | none => simp only [hfault]; exact ih next _ _

-- A fault that is pending ends the words in front or, if there are none, is still pending for those
-- behind, so words can be cut anywhere.
theorem runWords_andThen (before after : List String) (listener further last : Journal) :
    ((runWords table machine (before ++ after)).run listener).1 =
      andThen ((runWords table machine before).run further).1
        fun next => ((runWords table next after).run last).1 := by
  induction before generalizing machine listener further with
  | nil => exact runWords_listener table machine after listener last
  | cons word before ih =>
      simp only [List.cons_append, runWords, Logged.bind_outcome,
        table.dispatch_listener machine word listener further]
      rcases ((table.dispatch machine word).run further).1 with ⟨cause | route, next⟩
      · rfl
      · cases hfault : next.fault with
        | some fault => simp only [hfault]; rfl
        | none => simp only [hfault]; exact ih next _ _

theorem runLine_words (line : String) (listener further : Journal) :
    ((runLine table machine line).run listener).1 =
      ((runWords table machine (Text.words line)).run further).1 :=
  runWords_listener table machine (Text.words line) _ further

theorem runLine_andThen {gap : String} (hne : gap ≠ "")
    (hgap : ∀ c ∈ gap.toList, Text.isBlank c = true) (before after : String)
    (listener further last : Journal) :
    ((runLine table machine (before ++ gap ++ after)).run listener).1 =
      andThen ((runLine table machine before).run further).1
        fun next => ((runLine table next after).run last).1 := by
  have hafter : (fun next => ((runLine table next after).run last).1) =
      fun next => ((runWords table next (Text.words after)).run last).1 :=
    funext fun next => runLine_words table next after last last
  rw [runLine_words table machine _ listener listener, Text.words_append hne hgap, hafter,
    runLine_words table machine before further further]
  exact runWords_andThen table machine _ _ listener further last

end Switchboard.StackMachine
