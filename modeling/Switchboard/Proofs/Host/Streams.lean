import Switchboard.Proofs.Command.Faults
import Switchboard.Proofs.Command.Stack
import Switchboard.Proofs.Host.Front
import Switchboard.Proofs.Host.Output

namespace Switchboard

namespace Host

-- The command that the arguments name behind the flags for settings.
def orderOf (arguments : List SystemText) : Except CommandLine.Stop Order :=
  Order.read (arguments.head?.bind Order.calledName?) (ConfigFlags.leading arguments.tail).2

-- The settings of a run, from those flags, the variables and the files.
def settingsOf (files : SystemText → FileAnswer) (arguments : List SystemText)
    (environment : Environment) : Except ConfigFault Config :=
  (Config.load (arguments.head?.bind Order.calledName?) (ConfigFlags.leading arguments.tail).1
    environment).answered files

section Parts

variable {host : Host} {files : SystemText → FileAnswer} {arguments : List SystemText}
  {environment : Environment} {journal : Journal}

theorem read_remaining (arguments : List SystemText) :
    Order.read (arguments.head?.bind Order.calledName?)
      ((ConfigFlags.Split.ofArguments arguments).remaining arguments).tail = orderOf arguments := by
  rw [(ConfigFlags.Split.tails_eq_leading arguments).2]
  rfl

theorem load_flags (files : SystemText → FileAnswer) (arguments : List SystemText)
    (environment : Environment) :
    (Config.load (arguments.head?.bind Order.calledName?)
      (ConfigFlags.Split.ofArguments arguments).flags.tail environment).answered files =
        settingsOf files arguments environment := by
  rw [(ConfigFlags.Split.tails_eq_leading arguments).1]
  rfl

theorem run_asked {text : String} (h : orderOf arguments = .error (.answer text)) :
    (host.run arguments environment journal).answered files =
      (some (host.answer text), journal) := by
  simp only [run, read_remaining, h, Reading.answered_pure]

theorem run_overview {text : String} (h : orderOf arguments = .error (.overview text)) :
    (host.run arguments environment journal).answered files =
      (some (.ofFault [] (.overview text)), journal) := by
  simp only [run, read_remaining, h, Reading.answered_pure, refuse_eq]

theorem run_refused {refusal : CommandLine.Refusal}
    (h : orderOf arguments = .error (.refused refusal)) :
    (host.run arguments environment journal).answered files =
      (some (.ofFault [] (.refused refusal)), journal) := by
  simp only [run, read_remaining, h, Reading.answered_pure, refuse_eq]

variable {order : Order} (horder : orderOf arguments = .ok order)

include horder

theorem run_unsettled {cause : ConfigFault}
    (h : settingsOf files arguments environment = .error cause) :
    (host.run arguments environment journal).answered files =
      (some (.ofFault [] (.config cause)), journal) := by
  simp only [run, read_remaining, horder, Reading.answered_bind, load_flags, h,
    Reading.answered_pure, refuse_eq]

variable {config : Config} (hsettings : settingsOf files arguments environment = .ok config)

include hsettings

theorem run_unlogged {fault : HostFault} (h : host.openLog config journal = .error fault) :
    (host.run arguments environment journal).answered files =
      (some (.ofFault [] fault), journal) := by
  simp only [run, read_remaining, horder, Reading.answered_bind, load_flags, hsettings, h,
    Reading.answered_pure, refuse_eq]

theorem run_executed {started : Journal} (h : host.openLog config journal = .ok started) :
    (host.run arguments environment journal).answered files =
      (host.execute order config started).answered files := by
  simp only [run, read_remaining, horder, Reading.answered_bind, load_flags, hsettings, h]

end Parts

section

variable (host : Host) (files : SystemText → FileAnswer) (arguments : List SystemText)
  (environment : Environment) (journal : Journal)

-- What a command line comes to before anything is written: an answer, or the one fault that
-- stands in its way. Nothing is asked of a stream here.
inductive Answers : Except HostFault (List UInt8) → Prop where
  | text {text : String} (h : orderOf arguments = .error (.answer text)) :
      Answers (.ok (Text.Utf8.encode text))
  | overview {text : String} (h : orderOf arguments = .error (.overview text)) :
      Answers (.error (.overview text))
  | refused {refusal : CommandLine.Refusal} (h : orderOf arguments = .error (.refused refusal)) :
      Answers (.error (.refused refusal))
  | settings {order : Order} {cause : ConfigFault} (horder : orderOf arguments = .ok order)
      (h : settingsOf files arguments environment = .error cause) :
      Answers (.error (.config cause))
  | source {order : Order} {config : Config} {cause : CommandFault}
      (horder : orderOf arguments = .ok order)
      (hsettings : settingsOf files arguments environment = .ok config)
      (h : order.command.source.answered files = .error cause) :
      Answers (.error (.command cause))
  | fault {order : Order} {config : Config} {code : Option String} {cause : CommandFault}
      (horder : orderOf arguments = .ok order)
      (hsettings : settingsOf files arguments environment = .ok config)
      (hsource : order.command.source.answered files = .ok code)
      (h : ((order.command.perform false host.fuel config code).run.run journal).1 =
        some (.error cause)) :
      Answers (.error (.command cause))
  | report {order : Order} {config : Config} {code : Option String} {report : Report}
      (horder : orderOf arguments = .ok order)
      (hsettings : settingsOf files arguments environment = .ok config)
      (hsource : order.command.source.answered files = .ok code)
      (h : ((order.command.perform false host.fuel config code).run.run journal).1 =
        some (.ok report)) :
      Answers (.ok (report.written order.format))

end

-- How an answer is given, and how a fault is told.
def outcomeOf : Except HostFault (List UInt8) → Outcome
  | .ok bytes => .success bytes
  | .error fault => .ofFault [] fault

section Run

variable {host : Host} {files : SystemText → FileAnswer} {arguments : List SystemText}
  {environment : Environment} {journal : Journal}

theorem Answers.unique {answer other : Except HostFault (List UInt8)}
    (h : host.Answers files arguments environment journal answer)
    (hother : host.Answers files arguments environment journal other) : other = answer := by
  cases h <;> cases hother <;> simp_all

theorem Answers.admits {cause : CommandFault}
    (h : host.Answers files arguments environment journal (.error (.command cause))) :
    ∃ order, orderOf arguments = .ok order ∧ order.command.Admits cause := by
  cases h with
  | source horder hsettings h => exact ⟨_, horder, Command.admits_of_source h⟩
  | @fault order config code cause horder hsettings hsource h =>
      have hend := Command.perform_staysWithin false host.fuel config code order.command journal
      rw [h] at hend
      exact ⟨order, horder, hend⟩

-- Past the settings, a run does as its command does.
theorem execute_cases {order : Order} {config : Config} (hroom : host.room = none)
    (hlog : host.keepsLog = false) (horder : orderOf arguments = .ok order)
    (hsettings : settingsOf files arguments environment = .ok config) :
    (∃ answer, host.Answers files arguments environment journal answer ∧
      ((host.execute order config journal).answered files).1 = some (outcomeOf answer)) ∨
    (((host.execute order config journal).answered files).1 = none ∧
      order.command.RunsTape) := by
  cases hsource : order.command.source.answered files with
  | error cause =>
      rw [execute_unreadable hsource]
      exact .inl ⟨_, .source horder hsettings hsource, rfl⟩
  | ok code =>
      rcases hrun : (order.command.perform false host.fuel config code).run.run journal with
        ⟨_ | cause | report, after⟩ <;>
        rw [execute_performed hsource (by rw [hlog]; exact hrun)]
      · have hend := Command.perform_staysWithin false host.fuel config code order.command journal
        rw [hrun] at hend
        exact .inr ⟨rfl, hend⟩
      · refine .inl ⟨_, .fault horder hsettings hsource (by rw [hrun]), ?_⟩
        simp only [Option.map_some, withLog, hlog]
        rfl
      · refine .inl ⟨_, .report horder hsettings hsource (by rw [hrun]), ?_⟩
        simp only [Option.map_some, withLog, hlog, shown, publish_unlimited hroom]
        rfl

-- A run comes to an answer or a fault, or else it runs a tape program that has not ended.
theorem run_cases (hroom : host.room = none) (hlog : host.keepsLog = false) :
    (∃ answer, host.Answers files arguments environment journal answer ∧
      ((host.run arguments environment journal).answered files).1 = some (outcomeOf answer)) ∨
    (((host.run arguments environment journal).answered files).1 = none ∧
      ∃ order, orderOf arguments = .ok order ∧ order.command.RunsTape) := by
  rcases hread : orderOf arguments with (text | text | refusal) | order
  · refine .inl ⟨_, .text hread, ?_⟩
    rw [run_asked hread, answer_unlimited hroom]
    rfl
  · exact .inl ⟨_, .overview hread, congrArg Prod.fst (run_overview hread)⟩
  · exact .inl ⟨_, .refused hread, congrArg Prod.fst (run_refused hread)⟩
  · rcases hload : settingsOf files arguments environment with cause | config
    · exact .inl ⟨_, .settings hread hload, congrArg Prod.fst (run_unsettled hread hload)⟩
    · have hstarted : host.openLog config journal = .ok journal := by
        rw [openLog, hlog]
        rfl
      rw [run_executed hread hload hstarted]
      rcases execute_cases hroom hlog hread hload with hdone | ⟨hnone, htape⟩
      · exact .inl hdone
      · exact .inr ⟨hnone, order, rfl, htape⟩

-- A run that ends writes to one of its two streams. It succeeds and writes its answer to the one,
-- or it fails and writes the text of one fault and the end of its line to the other. Only a tape
-- program need not end. It is all done before anything is written, so on any stream a command that
-- halts for a reason of its own leaves the stream as it was.
theorem run_answers_on_one_stream (hroom : host.room = none) (hlog : host.keepsLog = false)
    (time : String) :
    let result := ((host.run arguments environment journal).answered files).1
    (∀ (command : Command) announce fuel config code format stream listener cause left after,
      ((command.carryOut announce fuel config code format).run.run stream).run.run listener =
        (some (.error (.fault cause), left), after) → left = stream) ∧
    (result = none → ∃ order, orderOf arguments = .ok order ∧ order.command.RunsTape) ∧
    ∀ outcome, result = some outcome →
      (outcome.succeeded = true → outcome.stderrWith time = "" ∧
        ∀ answer, host.Answers files arguments environment journal answer ↔
          answer = .ok outcome.stdout) ∧
      (outcome.succeeded = false → outcome.stdout = [] ∧ ∃ fault : HostFault,
        outcome.stderrWith time = fault.message ++ "\n" ∧
        (∀ answer, host.Answers files arguments environment journal answer ↔
          answer = .error fault) ∧
        ∀ cause, fault = .command cause →
          ∃ order, orderOf arguments = .ok order ∧ order.command.Admits cause) := by
  intro result
  refine ⟨fun _ _ _ _ _ _ _ _ _ _ _ h => Command.carryOut_untouched h, ?_⟩
  obtain ⟨answer, hanswer, hresult⟩ | ⟨hnone, htape⟩ := run_cases hroom hlog
  · have hiff : ∀ other, host.Answers files arguments environment journal other ↔
        other = answer := fun other => ⟨hanswer.unique, fun h => h ▸ hanswer⟩
    refine ⟨fun h => absurd (hresult.symm.trans h) (by simp), fun outcome houtcome => ?_⟩
    obtain rfl : outcomeOf answer = outcome := Option.some.inj (hresult.symm.trans houtcome)
    cases answer with
    | ok bytes => exact ⟨fun _ => ⟨rfl, hiff⟩, nofun⟩
    | error fault =>
        refine ⟨nofun, fun _ => ⟨rfl, fault, rfl, hiff, ?_⟩⟩
        rintro cause rfl
        exact hanswer.admits
  · refine ⟨fun _ => htape, fun outcome houtcome => ?_⟩
    cases hnone.symm.trans houtcome

end Run

-- The first line prints, and the second has a word that nothing takes. What was printed is not
-- written.
theorem run_answers_on_one_stream_midway :
    let host : Host := ⟨0, none, false⟩
    let arguments : List SystemText := ["textdispatch", "forth", "1 .", "nope"].map .text
    ∃ outcome, ((host.run arguments [] .nothing).answered fun _ => .error .missing).1 =
        some outcome ∧ outcome.succeeded = false ∧ outcome.stdout = [] ∧
      outcome.stderrWith "" = "forth: token 'nope' does not match any dispatchable method\n" := by
  intro host arguments
  have horder : orderOf arguments = .ok ⟨.stack ["1 .", "nope"], .human⟩ := rfl
  have hload : settingsOf (fun _ => .error .missing) arguments [] = .ok .standard := by
    with_unfolding_all rfl
  have hsplit : ["1 .", "nope"].flatMap Text.words = ["1", ".", "nope"] := by decide
  have hwords : ["1", ".", "nope"].foldlM (Slate.apply Config.standard.domain) ⟨[], ""⟩ =
      .error (.unroutable (.unknownToken "nope")) := rfl
  have hcommand := Command.perform_stack false 0 .standard none ["1 .", "nope"] .nothing
  rw [hsplit, hwords] at hcommand
  have hfault : host.Answers (fun _ => .error .missing) arguments [] .nothing
      (.error (.command (.stack (.unroutable (.unknownToken "nope"))))) :=
    .fault horder hload rfl hcommand
  obtain ⟨-, hends, hanswers⟩ :=
    @run_answers_on_one_stream host (fun _ => .error .missing) arguments [] .nothing rfl rfl ""
  cases hresult : ((host.run arguments [] .nothing).answered fun _ => .error .missing).1 with
  | none =>
      obtain ⟨order, hother, htape⟩ := hends hresult
      cases hother
      cases htape
  | some outcome =>
      obtain ⟨hsuccess, hfailure⟩ := hanswers outcome hresult
      cases hdone : outcome.succeeded with
      | true => cases ((hsuccess hdone).2 _).mp hfault
      | false =>
          obtain ⟨hstdout, fault, hstderr, hiff, -⟩ := hfailure hdone
          cases (hiff _).mp hfault
          exact ⟨outcome, rfl, hdone, hstdout, hstderr⟩

end Host

end Switchboard
