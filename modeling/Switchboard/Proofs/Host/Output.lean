import Switchboard.Host
import Switchboard.Proofs.Command.Perform
import Mathlib.Data.List.Basic

namespace Switchboard

namespace Stream

variable {α : Type}

-- All bytes of some writes, in order.
def bytesOf (writes : List (α × List UInt8)) : List UInt8 := writes.flatMap (·.2)

@[simp] theorem bytesOf_nil : bytesOf ([] : List (α × List UInt8)) = [] := rfl

@[simp] theorem bytesOf_cons (writer : α) (bytes : List UInt8) (rest : List (α × List UInt8)) :
    bytesOf ((writer, bytes) :: rest) = bytes ++ bytesOf rest := rfl

theorem writeAll_unlimited (writes : List (α × List UInt8)) (taken : List UInt8) :
    (⟨none, taken⟩ : Stream).writeAll writes = (none, ⟨none, taken ++ bytesOf writes⟩) := by
  induction writes generalizing taken with
  | nil => simp [writeAll]
  | cons part rest ih =>
      obtain ⟨writer, bytes⟩ := part
      simp only [writeAll, write, ih, bytesOf_cons, List.append_assoc]

-- Where writing to a stream with so much room left comes to an end: behind the last write, or
-- within the write that holds the first byte for which there is no room.
inductive Ends (writes : List (α × List UInt8)) (room : Nat) : Option α → Prop where
  | behind (h : (bytesOf writes).length ≤ room) : Ends writes room none
  | within (before : List (α × List UInt8)) {writer : α} {bytes : List UInt8}
      {after : List (α × List UInt8)} (hsplit : writes = before ++ (writer, bytes) :: after)
      (hbefore : (bytesOf before).length ≤ room)
      (hcut : room < (bytesOf before).length + bytes.length) : Ends writes room (some writer)

-- However a text is cut into writes, a stream takes the front of it that there is room for.
theorem writeAll_limited (writes : List (α × List UInt8)) (room : Nat) (taken : List UInt8) :
    ((⟨some room, taken⟩ : Stream).writeAll writes).2.taken =
        taken ++ (bytesOf writes).take room ∧
      Ends writes room ((⟨some room, taken⟩ : Stream).writeAll writes).1 := by
  induction writes generalizing room taken with
  | nil => exact ⟨by simp [writeAll], .behind (Nat.zero_le room)⟩
  | cons part rest ih =>
      obtain ⟨writer, bytes⟩ := part
      by_cases hroom : bytes.length ≤ room
      · have hwrite : (⟨some room, taken⟩ : Stream).writeAll ((writer, bytes) :: rest) =
            (⟨some (room - bytes.length), taken ++ bytes⟩ : Stream).writeAll rest := by
          simp only [writeAll, write, hroom, decide_true, List.take_of_length_le]
        obtain ⟨htaken, hends⟩ := ih (room - bytes.length) (taken ++ bytes)
        rw [hwrite]
        refine ⟨?_, ?_⟩
        · rw [htaken, bytesOf_cons, List.take_append, List.take_of_length_le hroom,
            List.append_assoc]
        · generalize ((⟨some (room - bytes.length), taken ++ bytes⟩ : Stream).writeAll rest).1 =
            answer at hends ⊢
          cases hends with
          | behind h =>
              refine .behind ?_
              rw [bytesOf_cons, List.length_append]
              omega
          | @within before last piece after hsplit hbefore hcut =>
              refine .within ((writer, bytes) :: before) (by rw [hsplit]; rfl) ?_ ?_
              · rw [bytesOf_cons, List.length_append]
                omega
              · rw [bytesOf_cons, List.length_append]
                omega
      · have hwrite : (⟨some room, taken⟩ : Stream).writeAll ((writer, bytes) :: rest) =
            (some writer, ⟨some (room - bytes.length), taken ++ bytes.take room⟩) := by
          simp only [writeAll, write, hroom, decide_false]
        rw [hwrite]
        refine ⟨?_, .within [] rfl (Nat.zero_le room) ?_⟩
        · rw [bytesOf_cons, List.take_append_of_le_length (by omega)]
        · rw [bytesOf_nil, List.length_nil]
          omega

end Stream

namespace Report

theorem bytesOf_writes (format : OutputFormat) (report : Report) :
    Stream.bytesOf (report.writes format) = report.written format := rfl

theorem writer_forPeople {report : Report} {writer : Writer} {bytes : List UInt8}
    (h : (writer, bytes) ∈ report.forPeople) : writer = .lines := by
  cases report <;> simp only [forPeople, lineWrite, List.mem_append, List.mem_map] at h <;> grind

end Report

namespace Outcome

def success (stdout : List UInt8) : Outcome := ⟨true, stdout, "", [], .compact⟩

-- A failure is told on one stream alone, except that a broken one may have taken a part before.
def failure (stdout : List UInt8) (stderr : String) : Outcome :=
  ⟨false, stdout, stderr, [], .compact⟩

def ofFault (stdout : List UInt8) (fault : HostFault) : Outcome :=
  failure stdout (fault.message ++ "\n")

end Outcome

namespace Streams

theorem conclude_ok (streams : Streams) (h : streams.errors = "") :
    streams.conclude (.ok ()) = .success streams.output.taken := by
  rw [conclude, outcome, h]
  rfl

theorem conclude_error (streams : Streams) (h : streams.errors = "") (fault : HostFault) :
    streams.conclude (.error fault) = .ofFault streams.output.taken fault := by
  rw [conclude, report, outcome, h, String.empty_append]
  rfl

end Streams

namespace Host

variable (host : Host)

-- What becomes of a report, and of a fault in place of it, on the two streams.
def publish (format : OutputFormat) (report : Report) : Outcome :=
  match host.opened.output.writeAll (report.writes format) with
  | (none, stream) => .success stream.taken
  | (some writer, stream) => .ofFault stream.taken (.ofWriter writer)

def shown (format : OutputFormat) : Except CommandFault Report → Outcome
  | .ok report => host.publish format report
  | .error cause => .ofFault [] (.command cause)

theorem refuse_eq (fault : HostFault) : host.opened.conclude (.error fault) = .ofFault [] fault :=
  host.opened.conclude_error rfl fault

-- The end of a run for what its command has left of the output.
theorem conclude_written (format : OutputFormat) (answer : Except CommandFault Report) :
    let (result, output) := Act.written host.opened.output format answer
    { host.opened with output }.conclude (result.mapError .ofHalt) = host.shown format answer := by
  cases answer with
  | error cause => exact host.refuse_eq (.command cause)
  | ok report =>
      rw [Act.written, Stream.print, shown, publish]
      cases host.opened.output.writeAll (report.writes format) with
      | mk broken output =>
          cases broken with
          | none => exact Streams.conclude_ok _ rfl
          | some writer => exact Streams.conclude_error _ rfl (.ofWriter writer)

section Execute

variable {host : Host} {order : Order} {config : Config} {files : SystemText → FileAnswer}
  {journal after : Journal} {code : Option String}

theorem execute_unreadable {cause : CommandFault}
    (h : order.command.source.answered files = .error cause) :
    (host.execute order config journal).answered files =
      (some (.ofFault [] (.command cause)), journal) := by
  simp only [execute, Reading.answered_bind, h, Reading.answered_pure, refuse_eq]

theorem execute_performed (hsource : order.command.source.answered files = .ok code)
    {answer : Option (Except CommandFault Report)}
    (h : (order.command.perform host.keepsLog host.fuel config code).run.run journal =
      (answer, after)) :
    (host.execute order config journal).answered files =
      (answer.map fun result => host.withLog config after (host.shown order.format result),
        after) := by
  have hact := Command.run_carryOut host.keepsLog host.fuel config code order.format order.command
    host.opened.output journal
  rw [h] at hact
  simp only [execute, Reading.answered_bind, hsource, hact]
  cases answer with
  | none => rfl
  | some result =>
      have hend := host.conclude_written order.format result
      simp only [Option.map_some, Reading.answered_pure] at hend ⊢
      rw [hend]

end Execute

variable {host : Host}

theorem answer_unlimited (hroom : host.room = none) (text : String) :
    host.answer text = .success (Text.Utf8.encode text) := by
  simp only [answer, opened, hroom, Stream.write, List.nil_append]
  rfl

theorem publish_unlimited (hroom : host.room = none) (format : OutputFormat) (report : Report) :
    host.publish format report = .success (report.written format) := by
  simp only [publish, opened, hroom, Stream.writeAll_unlimited, Report.bytesOf_writes,
    List.nil_append]

end Host

end Switchboard
