import Switchboard.Proofs.Host.Streams

namespace Switchboard

namespace Host

-- Within whose write a stream is closed that has room for so many bytes of a report: within the
-- writer of lines for people, and within the serialiser for tools, unless only the end of the
-- line is missing.
theorem ofWriter_of_within {format : OutputFormat} {report : Report} {n : Nat}
    {before after : List (Report.Writer × List UInt8)} {writer : Report.Writer}
    {bytes : List UInt8} (hsplit : report.writes format = before ++ (writer, bytes) :: after)
    (hbefore : (Stream.bytesOf before).length ≤ n)
    (hcut : n < (Stream.bytesOf before).length + bytes.length) :
    HostFault.ofWriter writer =
      if format = .json ∧ n + 1 < (report.written format).length then .serialise else .write := by
  have hlength : (report.written format).length =
      (Stream.bytesOf before).length + bytes.length + (Stream.bytesOf after).length := by
    rw [← Report.bytesOf_writes, hsplit]
    simp only [Stream.bytesOf, List.flatMap_append, List.flatMap_cons, List.length_append,
      Nat.add_assoc]
  cases format with
  | human =>
      have hmem : (writer, bytes) ∈ report.forPeople := by
        change _ ∈ report.writes .human
        rw [hsplit]
        exact List.mem_append_right _ List.mem_cons_self
      rw [Report.writer_forPeople hmem]
      rfl
  | json =>
      -- The stream is closed within the document, or else in front of the end of the line.
      change report.forTools = _ at hsplit
      rcases before with _ | ⟨first, _ | ⟨second, before⟩⟩ <;>
        simp only [Report.forTools, List.nil_append, List.cons_append, List.cons.injEq,
          Prod.mk.injEq, List.nil_eq, List.append_eq_nil_iff, reduceCtorEq, and_false] at hsplit
      · obtain ⟨⟨rfl, -⟩, rfl⟩ := hsplit
        have hend : (Stream.bytesOf [Report.lineWrite ""]).length = 1 := rfl
        rw [if_pos ⟨rfl, by omega⟩]
        rfl
      · obtain ⟨rfl, hline, rfl⟩ := hsplit
        cases hline
        have hend : (Text.Utf8.encode ("" ++ "\n")).length = 1 := rfl
        have hafter : (Stream.bytesOf ([] : List (Report.Writer × List UInt8))).length = 0 := rfl
        rw [if_neg (by omega)]
        rfl

-- A report that does not go through ends in the words of the writer within whose write the stream
-- is closed.
theorem publish_limited {host : Host} {n : Nat} (hroom : host.room = some n)
    (format : OutputFormat) (report : Report) :
    host.publish format report =
      if (report.written format).length ≤ n then .success (report.written format)
      else .ofFault ((report.written format).take n)
        (if format = .json ∧ n + 1 < (report.written format).length then .serialise
          else .write) := by
  obtain ⟨htaken, hends⟩ := Stream.writeAll_limited (report.writes format) n []
  rw [List.nil_append, Report.bytesOf_writes] at htaken
  simp only [publish, opened, hroom]
  generalize (⟨some n, []⟩ : Stream).writeAll (report.writes format) = result at htaken hends ⊢
  obtain ⟨answer, stream⟩ := result
  cases hends with
  | behind h =>
      rw [Report.bytesOf_writes] at h
      rw [if_pos h, ← List.take_of_length_le h]
      exact congrArg Outcome.success htaken
  | @within before writer bytes after hsplit hbefore hcut =>
      have hlong : n < (report.written format).length := by
        rw [← Report.bytesOf_writes, hsplit]
        simp only [Stream.bytesOf, List.flatMap_append, List.flatMap_cons, List.length_append]
          at hcut ⊢
        omega
      rw [if_neg (Nat.not_le.mpr hlong), ← htaken, ← ofWriter_of_within hsplit hbefore hcut]

-- What is left of a run when its output takes so many bytes, next to a run whose output takes all
-- of them. The notice depends on how long the whole output is.
structure Cut (n : Nat) (notice : Nat → String) (full cut : Outcome) : Prop where
  stdout : cut.stdout = full.stdout.take n
  succeeded : cut.succeeded = true ↔ full.succeeded = true ∧ full.stdout.length ≤ n
  stderr : full.succeeded = true → n < full.stdout.length → cut.stderr = notice full.stdout.length
  same : full.stdout.length ≤ n → cut = full

namespace Cut

variable {n : Nat} {notice : Nat → String} {full cut : Outcome}

-- A run that fails by itself has nothing to write.
theorem ofFault (fault : HostFault) : Cut n notice (.ofFault [] fault) (.ofFault [] fault) where
  stdout := List.take_nil.symm
  succeeded := ⟨nofun, fun h => h.1⟩
  stderr := nofun
  same _ := rfl

theorem withLog (h : Cut n notice full cut) (host : Host) (config : Config) (journal : Journal) :
    Cut n notice (host.withLog config journal full) (host.withLog config journal cut) := by
  unfold Host.withLog
  split_ifs
  · exact ⟨h.stdout, h.succeeded, h.stderr, fun hroom => by rw [h.same hroom]⟩
  · exact h

end Cut

-- How the end of the output is told in a format, or for a text that was asked for.
def closedNotice (n : Nat) : Option OutputFormat → Nat → String
  | none, _ => ""
  | some format, length =>
      if format = .json ∧ n + 1 < length then "failed to serialise output: stdout closed\n"
      else "failed to write output: stdout closed\n"

-- Two runs that both go on for ever, or both halt.
def Closes (n : Nat) (notice : Nat → String) : Option Outcome → Option Outcome → Prop
  | none, none => True
  | some full, some cut => Cut n notice full cut
  | _, _ => False

variable (host : Host) (files : SystemText → FileAnswer) (n : Nat)

theorem cut_answer (text : String) :
    Cut n (closedNotice n none) (({ host with room := none } : Host).answer text)
      (({ host with room := some n } : Host).answer text) := by
  rw [answer_unlimited rfl]
  simp only [answer, opened, Stream.write, List.nil_append]
  by_cases h : (Text.Utf8.encode text).length ≤ n
  · simp only [h, decide_true, List.take_of_length_le]
    exact ⟨(List.take_of_length_le h).symm, ⟨fun _ => ⟨rfl, h⟩, fun _ => rfl⟩,
      fun _ hlt => absurd h (Nat.not_le.mpr hlt), fun _ => rfl⟩
  · simp only [h, decide_false]
    exact ⟨rfl, ⟨fun hok => (Bool.false_ne_true hok).elim, fun hfits => absurd hfits.2 h⟩,
      fun _ _ => rfl, fun hfits => absurd hfits h⟩

theorem cut_publish (format : OutputFormat) (report : Report) :
    Cut n (closedNotice n (some format)) (({ host with room := none } : Host).publish format report)
      (({ host with room := some n } : Host).publish format report) := by
  rw [publish_unlimited rfl, publish_limited rfl]
  by_cases h : (report.written format).length ≤ n
  · rw [if_pos h]
    exact ⟨(List.take_of_length_le h).symm, ⟨fun _ => ⟨rfl, h⟩, fun _ => rfl⟩,
      fun _ hlt => absurd h (Nat.not_le.mpr hlt), fun _ => rfl⟩
  · rw [if_neg h]
    refine ⟨rfl, ⟨nofun, fun hfits => absurd hfits.2 h⟩, fun _ _ => ?_, fun hfits => absurd hfits h⟩
    change _ = if format = .json ∧ n + 1 < (report.written format).length then _ else _
    split_ifs <;> rfl

-- The command is carried out before anything is written, so both runs come to the same report.
theorem closes_execute (order : Order) (config : Config) (journal : Journal) :
    Closes n (closedNotice n (some order.format))
      ((({ host with room := none } : Host).execute order config journal).answered files).1
      ((({ host with room := some n } : Host).execute order config journal).answered files).1 := by
  cases hsource : order.command.source.answered files with
  | error cause =>
      rw [execute_unreadable hsource, execute_unreadable hsource]
      exact Cut.ofFault _
  | ok code =>
      rcases hrun : (order.command.perform host.keepsLog host.fuel config code).run.run journal with
        ⟨answer, after⟩
      have hexecute (room : Option Nat) :=
        @execute_performed { host with room } order config files journal after code hsource _ hrun
      rw [hexecute, hexecute]
      rcases answer with _ | cause | report
      · trivial
      · exact (Cut.ofFault (.command cause)).withLog host config after
      · exact (cut_publish host n order.format report).withLog host config after

-- The notice is the one for the format of the command, if there is a command.
theorem closes_run (arguments : List SystemText) (environment : Environment) (journal : Journal) :
    Closes n (closedNotice n ((orderOf arguments).toOption.map (·.format)))
      ((({ host with room := none } : Host).run arguments environment journal).answered files).1
      ((({ host with room := some n } : Host).run arguments environment journal).answered
        files).1 := by
  rcases hread : orderOf arguments with (text | text | refusal) | order
  · rw [run_asked hread, run_asked hread]
    exact cut_answer host n text
  · rw [run_overview hread, run_overview hread]
    exact Cut.ofFault _
  · rw [run_refused hread, run_refused hread]
    exact Cut.ofFault _
  · cases hsettings : settingsOf files arguments environment with
    | error cause =>
        rw [run_unsettled hread hsettings, run_unsettled hread hsettings]
        exact Cut.ofFault _
    | ok config =>
        have hopen : ∀ room, ({ host with room } : Host).openLog config journal =
            host.openLog config journal := fun _ => rfl
        cases hlog : host.openLog config journal with
        | error fault =>
            rw [run_unlogged hread hsettings ((hopen _).trans hlog),
              run_unlogged hread hsettings ((hopen _).trans hlog)]
            exact Cut.ofFault _
        | ok started =>
            rw [run_executed hread hsettings ((hopen _).trans hlog),
              run_executed hread hsettings ((hopen _).trans hlog)]
            exact closes_execute host files n order config started

-- Only a text that was asked for and the report of a command count as success.
theorem asked_or_ordered {host : Host} {files : SystemText → FileAnswer}
    {arguments : List SystemText} {environment : Environment} {journal : Journal} {full : Outcome}
    (h : ((host.run arguments environment journal).answered files).1 = some full)
    (hsuccess : full.succeeded = true) :
    (∃ text, orderOf arguments = .error (.answer text)) ∨
      ∃ order, orderOf arguments = .ok order := by
  rcases hread : orderOf arguments with (text | text | refusal) | order
  · exact .inl ⟨text, rfl⟩
  · rw [run_overview hread] at h
    cases h
    cases hsuccess
  · rw [run_refused hread] at h
    cases h
    cases hsuccess
  · exact .inr ⟨order, rfl⟩

-- An output that is closed after so many bytes has taken that much from the front of what the run
-- would have written. The run still succeeds if that was all, and is then as if the output had
-- been open. Otherwise a run that would have succeeded fails: without a word if it gives a text
-- that was asked for, and else in the words of the serialiser or, once only the end of the line of
-- a document is left or in the format for people, of the writer.
theorem run_on_closed_output {host : Host} {files : SystemText → FileAnswer}
    {arguments : List SystemText} {environment : Environment} {journal : Journal} {full : Outcome}
    (hfull : ((({ host with room := none } : Host).run arguments environment journal).answered
      files).1 = some full) (n : Nat) :
    ∃ cut, ((({ host with room := some n } : Host).run arguments environment journal).answered
        files).1 = some cut ∧
      cut.stdout = full.stdout.take n ∧
      (cut.succeeded = true ↔ full.succeeded = true ∧ full.stdout.length ≤ n) ∧
      (full.stdout.length ≤ n → cut = full) ∧
      (full.succeeded = true → n < full.stdout.length →
        ((∃ text, orderOf arguments = .error (.answer text)) ∧ cut.stderr = "") ∨
        ∃ order, orderOf arguments = .ok order ∧ cut.stderr =
          if order.format = .json ∧ n + 1 < full.stdout.length then
            "failed to serialise output: stdout closed\n"
          else "failed to write output: stdout closed\n") := by
  have hcloses := closes_run host files n arguments environment journal
  rw [hfull] at hcloses
  generalize ((({ host with room := some n } : Host).run arguments environment journal).answered
    files).1 = answer at hcloses ⊢
  cases answer with
  | none => exact hcloses.elim
  | some cut =>
      obtain ⟨hstdout, hsucceeded, hstderr, hsame⟩ : Cut n _ full cut := hcloses
      refine ⟨cut, rfl, hstdout, hsucceeded, hsame, fun hsuccess hlt => ?_⟩
      have hnotice := hstderr hsuccess hlt
      obtain ⟨text, htext⟩ | ⟨order, horder⟩ := asked_or_ordered hfull hsuccess
      · rw [htext] at hnotice
        exact .inl ⟨⟨text, htext⟩, hnotice⟩
      · rw [horder] at hnotice
        exact .inr ⟨order, horder, hnotice⟩

-- A document of 25 bytes and the end of its line. With room for 24 of them the document is cut,
-- and with room for 25 only the end of the line is missing.
theorem run_on_closed_output_border :
    let host : Host := ⟨0, none, false⟩
    let arguments : List SystemText :=
      ["textdispatch", "--output", "json", "forth", "1 ."].map .text
    let files : SystemText → FileAnswer := fun _ => .error .missing
    ∃ full, ((host.run arguments [] .nothing).answered files).1 = some full ∧
      full.succeeded = true ∧ full.stdout.length = 26 ∧
      (∃ cut, ((({ host with room := some 24 } : Host).run arguments [] .nothing).answered
        files).1 = some cut ∧ cut.succeeded = false ∧ cut.stdout = full.stdout.take 24 ∧
        cut.stderr = "failed to serialise output: stdout closed\n") ∧
      ∃ cut, ((({ host with room := some 25 } : Host).run arguments [] .nothing).answered
        files).1 = some cut ∧ cut.succeeded = false ∧ cut.stdout = full.stdout.take 25 ∧
        cut.stderr = "failed to write output: stdout closed\n" := by
  have horder : orderOf (["textdispatch", "--output", "json", "forth", "1 ."].map .text) =
      .ok ⟨.stack ["1 ."], .json⟩ := by
    with_unfolding_all rfl
  have hload : settingsOf (fun _ => .error .missing)
      (["textdispatch", "--output", "json", "forth", "1 ."].map .text) [] = .ok .standard := by
    with_unfolding_all rfl
  intro host arguments files
  have hwords : ["1 ."].flatMap Text.words = ["1", "."] := by decide
  have happly : ["1", "."].foldlM (Slate.apply Config.standard.domain) ⟨[], ""⟩ =
      .ok ⟨[], "1 "⟩ := rfl
  have hcommand := Command.perform_stack false 0 .standard none ["1 ."] .nothing
  rw [hwords, happly] at hcommand
  have hreport : host.Answers files arguments [] .nothing
      (.ok ((Report.stack (Text.trimEnd "1 ") []).written .json)) :=
    .report horder hload rfl hcommand
  obtain ⟨answer, hanswer, hfull⟩ | ⟨-, order, hother, htape⟩ :=
    @run_cases host files arguments [] .nothing rfl rfl
  · obtain rfl := hreport.unique hanswer
    have hlength : (Report.written .json (.stack (Text.trimEnd "1 ") [])).length = 26 := by
      decide +kernel
    have hcut : ∀ n < 26, ∃ cut,
        ((({ host with room := some n } : Host).run arguments [] .nothing).answered files).1 =
          some cut ∧ cut.succeeded = false ∧
        cut.stdout = (Report.written .json (.stack (Text.trimEnd "1 ") [])).take n ∧
        cut.stderr = if n + 1 < 26 then "failed to serialise output: stdout closed\n"
          else "failed to write output: stdout closed\n" := by
      intro n hn
      obtain ⟨cut, hrun, hstdout, hsucceeded, -, hstderr⟩ :=
        @run_on_closed_output host files arguments [] .nothing _ hfull n
      have hlt : n < (Report.written .json (.stack (Text.trimEnd "1 ") [])).length :=
        hlength ▸ hn
      refine ⟨cut, hrun, ?_, hstdout, ?_⟩
      · rw [← Bool.not_eq_true, hsucceeded]
        exact fun h => absurd h.2 (Nat.not_le.mpr hlt)
      · obtain ⟨⟨text, htext⟩, -⟩ | ⟨order, hother, hnotice⟩ := hstderr rfl hlt
        · cases horder.symm.trans htext
        · cases horder.symm.trans hother
          simpa only [outcomeOf, Outcome.success, hlength, true_and] using hnotice
    exact ⟨_, hfull, rfl, hlength, hcut 24 (by decide), hcut 25 (by decide)⟩
  · cases horder.symm.trans hother
    cases htape

end Host

end Switchboard
