import Switchboard.Proofs.Catalog.Codec
import Switchboard.Proofs.Command.Perform
import Switchboard.Proofs.StackMachine.Line
import Switchboard.Proofs.TapeMachine.Walk

namespace Switchboard

namespace Run

variable {α β : Type}

-- A run ends with its fuel used up only where that can be, and fails only for reasons of one sort.
def StaysWithin (mayExhaust : Prop) (mayFail : CommandFault → Prop) (run : Run α) : Prop :=
  ∀ journal, match (run.run.run journal).1 with
    | none => mayExhaust
    | some (.error cause) => mayFail cause
    | some (.ok _) => True

theorem run_bind (first : Run α) (next : α → Run β) (journal : Journal) :
    (first >>= next).run.run journal =
      match first.run.run journal with
      | (none, journal) => (none, journal)
      | (some (.error cause), journal) => (some (.error cause), journal)
      | (some (.ok value), journal) => (next value).run.run journal := by
  simp only [bind, ExceptT.bind, ExceptT.run, ExceptT.mk, OptionT.run, OptionT.bind, OptionT.mk,
    StateT.bind]
  rcases first journal with ⟨_ | _ | _, after⟩ <;> rfl

-- What is only told or looked up neither fails nor takes fuel.
theorem run_bind_logged (first : Logged α) (next : α → Run β) (journal : Journal) :
    ((liftM first : Run α) >>= next).run.run journal =
      (next (first.run journal).1).run.run (first.run journal).2 := rfl

namespace StaysWithin

variable {mayExhaust : Prop} {mayFail : CommandFault → Prop}

theorem pure (value : α) : StaysWithin mayExhaust mayFail (Pure.pure value : Run α) :=
  fun _ => trivial

theorem throw {cause : CommandFault} (h : mayFail cause) :
    StaysWithin mayExhaust mayFail (MonadExcept.throw cause : Run α) := fun _ => h

theorem exhausted (h : mayExhaust) :
    StaysWithin mayExhaust mayFail (Command.exhausted : Run α) := fun _ => h

theorem bind {first : Run α} {next : α → Run β} (hfirst : StaysWithin mayExhaust mayFail first)
    (hnext : ∀ value, StaysWithin mayExhaust mayFail (next value)) :
    StaysWithin mayExhaust mayFail (first >>= next) := by
  intro journal
  have hend := hfirst journal
  rw [run_bind]
  rcases hrun : first.run.run journal with ⟨_ | cause | value, after⟩ <;> rw [hrun] at hend
  · exact hend
  · exact hend
  · exact hnext value after

theorem bind_logged {first : Logged α} {next : α → Run β}
    (hnext : ∀ journal, StaysWithin mayExhaust mayFail (next (first.run journal).1)) :
    StaysWithin mayExhaust mayFail ((liftM first : Run α) >>= next) := by
  intro journal
  rw [run_bind_logged]
  exact hnext journal (first.run journal).2

theorem orFault {ε : Type} {wrap : ε → CommandFault} {result : Except ε α}
    (h : ∀ cause, result = .error cause → mayFail (wrap cause)) :
    StaysWithin mayExhaust mayFail (Command.orFault wrap result) := by
  cases result with
  | ok value => exact pure value
  | error cause => exact throw (h cause rfl)

end StaysWithin

end Run

-- A stream that is refused has an item that is.
theorem exists_of_mapM_error {α β ε : Type} {code : α → Except ε β} {items : List α} {fault : ε}
    (h : items.mapM code = .error fault) : ∃ item ∈ items, code item = .error fault := by
  induction items with
  | nil => cases h
  | cons item rest ih =>
      rw [List.mapM_cons] at h
      cases hfirst : code item with
      | error cause =>
          rw [hfirst] at h
          cases h
          exact ⟨item, List.mem_cons_self, hfirst⟩
      | ok value =>
          rw [hfirst] at h
          cases hrest : rest.mapM code with
          | error cause =>
              rw [hrest] at h
              cases h
              obtain ⟨bad, hmem, hbad⟩ := ih hrest
              exact ⟨bad, List.mem_cons_of_mem _ hmem, hbad⟩
          | ok values =>
              rw [hrest] at h
              cases h

namespace Command

open Run

-- The commands that can take for ever.
def RunsTape : Command → Prop
  | .tape _ _ _ => True
  | .demo => True
  | _ => False

-- What can go wrong with a command, other than the way it was written and its settings.
def Admits : Command → CommandFault → Prop
  | .tape file code _, .noProgram => file = none ∧ code = none
  | .tape file _ _, .unreadable path _ => file = some path
  | .tape _ _ _, .tape _ => True
  | .stack _, .stack _ => True
  | .demo, .showcase _ => True
  | .demo, .tape _ => True
  | .demo, .stack _ => True
  | .encode _ tokens, .codec (.unknownToken token) => token ∈ tokens
  | .decode _ ids, .codec (.unknownId id) => id ∈ ids
  | _, _ => False

theorem admits_of_source {command : Command} {files : SystemText → FileAnswer}
    {cause : CommandFault} (h : command.source.answered files = .error cause) :
    command.Admits cause := by
  cases command with
  | tape file code input =>
      cases file with
      | some path =>
          simp only [source, Reading.answered_bind] at h
          split at h <;> cases h
          rfl
      | none =>
          cases code <;> cases h
          exact ⟨rfl, rfl⟩
  | _ => cases h

section Parts

variable {mayExhaust : Prop} {mayFail : CommandFault → Prop} (fuel : Nat) (config : Config)

-- A faultless handler has a table and a catalog, so only the rest of the run can fail.
theorem compileTable_staysWithin {H β : Type} [Handler H] {domain : Domain}
    (hmethods : Method.Faultless (Handler.methods (H := H)))
    {next : Except CompileError (Table H) → Run β}
    (hnext : ∀ table, StaysWithin mayExhaust mayFail (next (.ok table))) :
    StaysWithin mayExhaust mayFail
      ((liftM (Handler.compileTable H domain) : Run _) >>= next) := by
  refine .bind_logged fun journal => ?_
  obtain ⟨table, htable⟩ := Table.exists_of_faultless hmethods domain journal
  rw [Handler.compileTable, htable]
  exact hnext table

theorem compileCatalog_staysWithin {H β : Type} [Handler H]
    (hmethods : Method.Faultless (Handler.methods (H := H)))
    {next : Except CompileError Catalog → Run β}
    (hnext : ∀ catalog, StaysWithin mayExhaust mayFail (next (.ok catalog))) :
    StaysWithin mayExhaust mayFail
      ((liftM (Handler.compileCatalog H) : Run _) >>= next) := by
  refine .bind_logged fun journal => ?_
  obtain ⟨set, hset⟩ := MethodSet.exists_of_faultless hmethods
  rw [Handler.compileCatalog, Catalog.compile_outcome, hset]
  exact hnext _

theorem newMachine_staysWithin (announce : Bool) (htape : ∀ cause, mayFail (.tape cause)) :
    StaysWithin mayExhaust mayFail (newMachine announce config) := by
  have hmachine : StaysWithin mayExhaust mayFail
      (orFault .tape (TapeMachine.ofLength config.tapeLength.toNat)) :=
    .orFault fun cause _ => htape cause
  unfold newMachine
  split
  · exact compileTable_staysWithin TapeMachine.methods_faultless fun table =>
      .bind (.pure table) fun _ => hmachine
  · exact hmachine

theorem runTape_staysWithin (machine : TapeMachine) (code : String) (hexhaust : mayExhaust)
    (htape : ∀ cause, mayFail (.tape cause)) :
    StaysWithin mayExhaust mayFail (runTape fuel machine code) := by
  refine .bind_logged fun journal => ?_
  split
  · exact .exhausted hexhaust
  · exact .throw (htape _)
  · exact .pure _

theorem tapeReport_staysWithin (announce : Bool) (code input : String) (hexhaust : mayExhaust)
    (htape : ∀ cause, mayFail (.tape cause)) :
    StaysWithin mayExhaust mayFail (tapeReport announce fuel config code input) := by
  refine .bind (newMachine_staysWithin config announce htape) fun machine => ?_
  refine .bind (runTape_staysWithin fuel _ code hexhaust htape) fun ended => ?_
  exact .bind_logged fun _ => .pure _

theorem runLine_staysWithin (table : Table StackMachine) (machine : StackMachine) (line : String)
    (hstack : ∀ cause, mayFail (.stack cause)) :
    StaysWithin mayExhaust mayFail (runLine table machine line) := by
  refine .bind_logged fun journal => ?_
  split
  · exact .throw (hstack _)
  · exact .pure _

theorem runLines_staysWithin (table : Table StackMachine) (lines : List String)
    (hstack : ∀ cause, mayFail (.stack cause)) (machine : StackMachine) :
    StaysWithin mayExhaust mayFail (runLines table machine lines) := by
  induction lines generalizing machine with
  | nil => exact .pure machine
  | cons line rest ih => exact .bind (runLine_staysWithin table machine line hstack) ih

theorem stackTable_staysWithin : StaysWithin mayExhaust mayFail (stackTable config) :=
  compileTable_staysWithin StackMachine.methods_faultless fun table => .pure table

theorem stackReport_staysWithin (lines : List String) (hstack : ∀ cause, mayFail (.stack cause)) :
    StaysWithin mayExhaust mayFail (stackReport config lines) := by
  refine .bind (stackTable_staysWithin config) fun table => ?_
  exact .bind (runLines_staysWithin table lines hstack .empty) fun _ => .pure _

theorem runSamples_staysWithin (samples : List (String × String)) (hexhaust : mayExhaust)
    (htape : ∀ cause, mayFail (.tape cause)) (machine : TapeMachine) :
    StaysWithin mayExhaust mayFail (runSamples fuel machine samples) := by
  induction samples generalizing machine with
  | nil => exact .pure []
  | cons sample rest ih =>
      refine .bind (runTape_staysWithin fuel machine _ hexhaust htape) fun ended => ?_
      exact .bind (ih ended.2) fun _ => .pure _

theorem runChecks_staysWithin (table : Table StackMachine) (checks : List (String × String))
    (hstack : ∀ cause, mayFail (.stack cause)) (machine : StackMachine) :
    StaysWithin mayExhaust mayFail (runChecks table machine checks) := by
  induction checks generalizing machine with
  | nil => exact .pure []
  | cons check rest ih =>
      refine .bind (runLine_staysWithin table machine _ hstack) fun next => ?_
      exact .bind_logged fun _ => .bind (ih _) fun _ => .pure _

theorem demoReport_staysWithin (announce : Bool) (hexhaust : mayExhaust)
    (hshowcase : ∀ cause, mayFail (.showcase cause)) (htape : ∀ cause, mayFail (.tape cause))
    (hstack : ∀ cause, mayFail (.stack cause)) :
    StaysWithin mayExhaust mayFail (demoReport announce fuel config) := by
  unfold demoReport
  generalize Act.tapeSamples = samples
  refine .bind_logged fun journal => ?_
  refine .bind (.orFault fun cause _ => hshowcase cause) fun lines => ?_
  refine .bind (newMachine_staysWithin config announce htape) fun machine => ?_
  refine .bind (runSamples_staysWithin fuel samples hexhaust htape machine) fun printed => ?_
  refine .bind (stackTable_staysWithin config) fun table => ?_
  exact .bind (runChecks_staysWithin table _ hstack .empty) fun checks => .pure _

theorem namedSummary_staysWithin (handler : HandlerName) :
    StaysWithin mayExhaust mayFail (namedSummary config handler) := by
  have hsummary : ∀ {H : Type} [Handler H], Method.Faultless (Handler.methods (H := H)) →
      StaysWithin mayExhaust mayFail (summaryOf H config) := fun hmethods =>
    compileTable_staysWithin hmethods fun table => .bind (.pure table) fun _ => .pure _
  cases handler with
  | brainf => exact hsummary (H := TapeMachine) TapeMachine.methods_faultless
  | forth => exact hsummary (H := StackMachine) StackMachine.methods_faultless
  | showcase => exact hsummary (H := Showcase) (by decide)
  | second => exact hsummary (H := Companion) (by decide)

theorem namedCatalog_staysWithin (handler : HandlerName) :
    StaysWithin mayExhaust mayFail (namedCatalog handler) := by
  have hcatalog : ∀ {H : Type} [Handler H], Method.Faultless (Handler.methods (H := H)) →
      StaysWithin mayExhaust mayFail (catalogOf H) := fun hmethods =>
    compileCatalog_staysWithin hmethods fun catalog => .pure catalog
  cases handler with
  | brainf => exact hcatalog (H := TapeMachine) TapeMachine.methods_faultless
  | forth => exact hcatalog (H := StackMachine) StackMachine.methods_faultless
  | showcase => exact hcatalog (H := Showcase) (by decide)
  | second => exact hcatalog (H := Companion) (by decide)

end Parts

-- Every command ends by itself unless it runs a tape program, and each fails in its own ways only.
theorem perform_staysWithin (announce : Bool) (fuel : Nat) (config : Config)
    (code : Option String) (command : Command) :
    StaysWithin command.RunsTape command.Admits (command.perform announce fuel config code) := by
  cases command with
  | tape file given input =>
      exact tapeReport_staysWithin fuel config announce _ input trivial fun _ => trivial
  | stack lines => exact stackReport_staysWithin config lines fun _ => trivial
  | demo =>
      exact demoReport_staysWithin fuel config announce trivial (fun _ => trivial)
        (fun _ => trivial) fun _ => trivial
  | describe handler => exact .bind (namedSummary_staysWithin config handler) fun _ => .pure _
  | encode handler tokens =>
      refine .bind (namedCatalog_staysWithin handler) fun catalog => ?_
      refine .bind (.orFault fun cause hcause => ?_) fun _ => .pure _
      obtain ⟨token, hmem, htoken⟩ := exists_of_mapM_error hcause
      unfold Catalog.encode at htoken
      split at htoken <;> cases htoken
      exact hmem
  | decode handler ids =>
      refine .bind (namedCatalog_staysWithin handler) fun catalog => ?_
      refine .bind (.orFault fun cause hcause => ?_) fun _ => .pure _
      obtain ⟨id, hmem, hid⟩ := exists_of_mapM_error hcause
      unfold Catalog.decode at hid
      split at hid <;> cases hid
      exact hmem

end Command

end Switchboard
