import Switchboard.Proofs.Command.Formats
import Switchboard.Proofs.Command.Stack
import Switchboard.Proofs.Host.Output
import Switchboard.Proofs.Json.RoundTrip

namespace Switchboard

namespace Report

-- A document takes one line, and is read back from it.
theorem written_json (report : Report) :
    ∃ text, report.written .json = Text.Utf8.encode text ++ [10] ∧
      10 ∉ Text.Utf8.encode text ∧ Json.read? text = some report.toJson := by
  refine ⟨report.toJson.compact, rfl, ?_, Json.read?_compact report.toJson⟩
  refine Text.Utf8.not_mem_encode ?_
  rw [Json.compact, String.toList_ofList]
  exact report.toJson.newline_not_mem_write

end Report

namespace Host

theorem withLog_fault (host : Host) (config : Config) (journal : Journal) (fault : HostFault) :
    (host.withLog config journal (.ofFault [] fault)).succeeded = false := by
  unfold withLog
  split_ifs <;> rfl

theorem withLog_success (host : Host) (config : Config) (journal : Journal) :
    ∃ shown : Outcome, shown.succeeded = true ∧ ∀ bytes,
      host.withLog config journal (.success bytes) = { shown with stdout := bytes } := by
  refine ⟨host.withLog config journal (.success []), ?_, fun bytes => ?_⟩ <;>
    unfold withLog <;> split_ifs <;> rfl

-- The format is asked for only when there is a report.
theorem execute_format {host : Host} (hroom : host.room = none)
    (files : SystemText → FileAnswer) (command : Command) (config : Config) (journal : Journal) :
    (∃ result, (∀ outcome, result = some outcome → outcome.succeeded = false) ∧
      ∀ format, ((host.execute ⟨command, format⟩ config journal).answered files).1 = result) ∨
    ∃ (report : Report) (shown : Outcome), command.Tells report ∧ shown.succeeded = true ∧
      ∀ format, ((host.execute ⟨command, format⟩ config journal).answered files).1 =
        some { shown with stdout := report.written format } := by
  cases hsource : command.source.answered files with
  | error cause =>
      refine .inl ⟨some (.ofFault [] (.command cause)), fun outcome h => by cases h; rfl, ?_⟩
      exact fun format => congrArg Prod.fst (execute_unreadable hsource)
  | ok code =>
      have htells := Command.perform_tells host.keepsLog host.fuel config code command journal
      rcases hrun : (command.perform host.keepsLog host.fuel config code).run.run journal with
        ⟨answer, after⟩
      have hexecute : ∀ format,
          ((host.execute ⟨command, format⟩ config journal).answered files).1 = _ :=
        fun format => congrArg Prod.fst (execute_performed hsource hrun)
      rw [hrun] at htells
      rcases answer with _ | cause | report
      · exact .inl ⟨none, nofun, hexecute⟩
      · refine .inl ⟨some (host.withLog config after (.ofFault [] (.command cause))), ?_, hexecute⟩
        rintro outcome ⟨⟩
        exact withLog_fault host config after _
      · obtain ⟨told, hdone, htold⟩ := host.withLog_success config after
        refine .inr ⟨report, told, htells report rfl, hdone, fun format => ?_⟩
        rw [hexecute]
        simp only [Option.map_some, shown, publish_unlimited hroom, htold]

-- A command comes to the same in both formats up to what it writes. If it fails, it does so alike.
-- If not, tools are given one document on a line of its own, and from this document alone follows
-- what people are shown, as long as that is text at all.
theorem execute_formats_agree {host : Host} (hroom : host.room = none)
    (files : SystemText → FileAnswer) (command : Command) (config : Config) (journal : Journal) :
    let outcome (format : OutputFormat) :=
      ((host.execute ⟨command, format⟩ config journal).answered files).1
    (outcome .json = none ↔ outcome .human = none) ∧
    (∀ failed, failed.succeeded = false →
      (outcome .json = some failed ↔ outcome .human = some failed)) ∧
    ∀ told, outcome .json = some told → told.succeeded = true →
      ∃ shown, outcome .human = some shown ∧ shown = { told with stdout := shown.stdout } ∧
      ∃ text document, told.stdout = Text.Utf8.encode text ++ [10] ∧
        10 ∉ Text.Utf8.encode text ∧ Json.read? text = some document ∧
      ∃ plain, command.shownFrom? document = some plain ∧
        ((command.PrintsBytes → ∃ printed, shown.stdout = Text.Utf8.encode printed) →
          shown.stdout = Text.Utf8.encode plain) := by
  intro outcome
  rcases execute_format hroom files command config journal with
    ⟨result, hfailed, (hresult : ∀ format, outcome format = result)⟩ |
    ⟨report, shown, htells, hdone, (hresult : ∀ format, outcome format = some _)⟩
  · refine ⟨?_, fun failed _ => ?_, fun told htold hdone => ?_⟩
    · rw [hresult, hresult]
    · rw [hresult, hresult]
    · rw [hresult] at htold
      exact absurd (hdone.symm.trans (hfailed told htold)) (by decide)
  · obtain ⟨text, htext, hline, hread⟩ := report.written_json
    obtain ⟨plain, hplain, hshown⟩ := Command.shownFrom?_toJson htells
    refine ⟨?_, fun failed hfailed => ?_, fun told htold _ => ?_⟩
    · rw [hresult, hresult]
      exact ⟨nofun, nofun⟩
    · have hne : ∀ format, outcome format ≠ some failed := by
        intro format heq
        obtain rfl := Option.some.inj ((hresult format).symm.trans heq)
        exact absurd (hdone.symm.trans hfailed) (by decide)
      exact ⟨fun h => absurd h (hne .json), fun h => absurd h (hne .human)⟩
    · obtain rfl := Option.some.inj ((hresult .json).symm.trans htold)
      exact ⟨_, hresult .human, rfl, text, _, htext, hline, hread, plain, hplain, hshown⟩

-- What people are shown of two lines for the stack machine is found from what tools are given.
theorem execute_formats_agree_stack :
    let host : Host := ⟨0, none, false⟩
    let outcome (format : OutputFormat) :=
      ((host.execute ⟨.stack ["1 2", "3 ."], format⟩ .standard .nothing).answered
        fun _ => .error .missing).1
    ∃ told shown, outcome .json = some told ∧ outcome .human = some shown ∧
      told.stdout = Text.Utf8.encode "\x7b\"output\":\"3\",\"stack\":[1,2]\x7d\n" ∧
      shown.stdout = Text.Utf8.encode "3\nstack: 1 2\n" := by
  intro host outcome
  have hsplit : ["1 2", "3 ."].flatMap Text.words = ["1", "2", "3", "."] := by decide
  have hwords : ["1", "2", "3", "."].foldlM (Slate.apply Config.standard.domain) ⟨[], ""⟩ =
      .ok ⟨[2, 1], "3 "⟩ := rfl
  have hcommand := Command.perform_stack false 0 .standard none ["1 2", "3 ."] .nothing
  rw [hsplit, hwords] at hcommand
  have htrim : Text.trimEnd "3 " = "3" := by decide
  have htold : outcome .json = some (.success ((Report.stack "3" [1, 2]).written .json)) := by
    rcases hrun : ((Command.stack ["1 2", "3 ."]).perform false 0 .standard none).run.run .nothing
      with ⟨answer, after⟩
    simp only [hrun, htrim] at hcommand
    obtain rfl : answer = some (.ok (.stack "3" [1, 2])) := hcommand
    have hsource : (Command.stack ["1 2", "3 ."]).source.answered (fun _ => .error .missing) =
        .ok none := rfl
    have hexecute : ((host.execute ⟨.stack ["1 2", "3 ."], .json⟩ .standard .nothing).answered
        fun _ => .error .missing) = _ := execute_performed hsource hrun
    simp only [outcome, hexecute, Option.map_some, shown, host, publish_unlimited, withLog]
    rfl
  obtain ⟨-, -, hagree⟩ := @execute_formats_agree host rfl (fun _ => .error .missing)
    (.stack ["1 2", "3 ."]) .standard .nothing
  obtain ⟨shown, hhuman, -, text, document, hstdout, -, hread, plain, hplain, hshown⟩ :=
    hagree _ htold rfl
  refine ⟨_, shown, htold, hhuman, rfl, ?_⟩
  obtain rfl : (Report.stack "3" [1, 2]).toJson.compact = text :=
    Text.Utf8.encode_injective (List.append_cancel_right hstdout)
  obtain rfl : (Report.stack "3" [1, 2]).toJson = document :=
    Option.some.inj ((Json.read?_compact _).symm.trans hread)
  obtain rfl : "3\nstack: 1 2\n" = plain := Option.some.inj hplain
  exact hshown False.elim

end Host

end Switchboard
