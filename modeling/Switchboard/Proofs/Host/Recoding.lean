import Switchboard.Proofs.Catalog.Streams
import Switchboard.Proofs.Command.Formats
import Switchboard.Proofs.Host.Lines
import Switchboard.Proofs.Host.Output

namespace Switchboard

namespace HandlerName

def actionTokens (H : Type) [Handler H] : List String :=
  (Method.actionsOf (Handler.methods (H := H))).map Method.token

-- The tokens of the actions of a handler, in the order of declaration.
def tokens : HandlerName → List String
  | .brainf => actionTokens TapeMachine
  | .forth => actionTokens StackMachine
  | .showcase => actionTokens Showcase
  | .second => actionTokens Companion

-- The id of a token is its place among all of them.
def idOf (handler : HandlerName) (token : String) : UInt16 :=
  UInt16.ofNat (handler.tokens.idxOf token)

theorem space_not_mem {handler : HandlerName} {token : String} (h : token ∈ handler.tokens) :
    ' ' ∉ token.toList := by
  have htokens : ∀ token ∈ handler.tokens, ' ' ∉ token.toList := by
    cases handler <;> decide
  exact htokens token h

end HandlerName

namespace Command

def decimals (ids : List UInt16) : List String := ids.map fun id => toString id.toNat

theorem namedCatalog_answer (handler : HandlerName) (journal : Journal) :
    ∃ (catalog : Catalog) (after : Journal), catalog.Numbers handler.tokens ∧
      (namedCatalog handler).run.run journal = (some (.ok catalog), after) := by
  have hcatalog : ∀ {H : Type} [Handler H], Method.Faultless (Handler.methods (H := H)) →
      ∃ (catalog : Catalog) (after : Journal), catalog.Numbers (HandlerName.actionTokens H) ∧
        (catalogOf H).run.run journal = (some (.ok catalog), after) := by
    intro H _ hmethods
    obtain ⟨set, hset⟩ := MethodSet.exists_of_faultless hmethods
    obtain ⟨hbinds, hlimit⟩ := MethodSet.ofMethods_binds hset
    refine ⟨_, ((Handler.compileCatalog H).run journal).2, Catalog.numbers_ofActions hbinds hlimit,
      ?_⟩
    rw [catalogOf, Run.run_bind_logged, Handler.compileCatalog, Catalog.compile_outcome, hset]
    rfl
  cases handler with
  | brainf => exact hcatalog (H := TapeMachine) TapeMachine.methods_faultless
  | forth => exact hcatalog (H := StackMachine) StackMachine.methods_faultless
  | showcase => exact hcatalog (H := Showcase) (by decide)
  | second => exact hcatalog (H := Companion) (by decide)

-- What becomes of a command that codes a stream.
def coded {α : Type} (report : α → Report) :
    Except CodecError α → Option (Except CommandFault Report)
  | .ok value => some (.ok (report value))
  | .error cause => some (.error (.codec cause))

section Perform

variable (announce : Bool) (fuel : Nat) (config : Config) (code : Option String)
  (handler : HandlerName) (journal : Journal)

theorem perform_encode (tokens : List String) : ∃ catalog : Catalog,
    catalog.Numbers handler.tokens ∧
    (((Command.encode handler tokens).perform announce fuel config code).run.run journal).1 =
      coded .encoded (encodeAll catalog tokens) := by
  obtain ⟨catalog, after, hcatalog, hanswer⟩ := namedCatalog_answer handler journal
  refine ⟨catalog, hcatalog, ?_⟩
  rw [perform, Run.run_bind, hanswer]
  cases h : encodeAll catalog tokens <;> simp only [h] <;> rfl

theorem perform_decode (ids : List UInt16) : ∃ catalog : Catalog,
    catalog.Numbers handler.tokens ∧
    (((Command.decode handler ids).perform announce fuel config code).run.run journal).1 =
      coded .decoded (decodeAll catalog ids) := by
  obtain ⟨catalog, after, hcatalog, hanswer⟩ := namedCatalog_answer handler journal
  refine ⟨catalog, hcatalog, ?_⟩
  rw [perform, Run.run_bind, hanswer]
  cases h : decodeAll catalog ids <;> simp only [h] <;> rfl

end Perform

end Command

namespace Outcome

-- The run did what was asked, with one text on its output and nothing else.
structure Shows (text : String) (outcome : Outcome) : Prop where
  succeeded : outcome.succeeded = true
  stdout : outcome.stdout = Text.Utf8.encode text
  stderr : outcome.stderr = ""

-- The run failed before it wrote anything, and tells why.
structure Fails (cause : CommandFault) (outcome : Outcome) : Prop where
  succeeded : outcome.succeeded = false
  stdout : outcome.stdout = []
  stderr : outcome.stderr = cause.message ++ "\n"

end Outcome

namespace Host

open Command (decimals encodeAll decodeAll wordsText)

theorem withLog_shows (host : Host) (config : Config) (journal : Journal) {text : String}
    {bytes : List UInt8} (hbytes : bytes = Text.Utf8.encode text) :
    (host.withLog config journal (.success bytes)).Shows text := by
  unfold withLog
  split_ifs <;> exact ⟨rfl, hbytes, rfl⟩

theorem withLog_fails (host : Host) (config : Config) (journal : Journal) (cause : CommandFault) :
    (host.withLog config journal (.ofFault [] (.command cause))).Fails cause := by
  unfold withLog
  split_ifs <;> exact ⟨rfl, rfl, rfl⟩

section Streams

variable (host : Host) (files : SystemText → FileAnswer) (config : Config) (handler : HandlerName)

def outcome (format : OutputFormat) (command : Command) (journal : Journal) : Option Outcome :=
  ((host.execute ⟨command, format⟩ config journal).answered files).1

-- A stream is coded as a whole or not at all.
def CodesAs {α : Type} (format : OutputFormat) (command : Command) (journal : Journal)
    (text : α → String) (result : Except CodecError α) : Prop :=
  ∃ last, host.outcome files config format command journal = some last ∧
    match result with
    | .ok value => host.room = none → format = .human → last.Shows (text value)
    | .error cause => last.Fails (.codec cause)

theorem codesAs_of_perform {α : Type} {format : OutputFormat} {command : Command}
    {journal : Journal} {report : α → Report} {result : Except CodecError α} {text : α → String}
    (hsource : command.source.answered files = .ok none)
    (hperform : ((command.perform host.keepsLog host.fuel config none).run.run journal).1 =
      Command.coded report result)
    (htext : ∀ value, (report value).written .human = Text.Utf8.encode (text value)) :
    host.CodesAs files config format command journal text result := by
  cases result with
  | ok value =>
      obtain ⟨after, hlast⟩ := execute_shown host config ⟨command, format⟩ hsource hperform
      refine ⟨_, hlast, fun hroom hformat => ?_⟩
      rw [hformat, shown, publish_unlimited hroom]
      exact withLog_shows host config after (htext value)
  | error cause =>
      obtain ⟨after, hlast⟩ := execute_shown host config ⟨command, format⟩ hsource hperform
      exact ⟨_, hlast, withLog_fails host config after _⟩

theorem encode_codesAs (format : OutputFormat) (tokens : List String) (journal : Journal) :
    ∃ catalog : Catalog, catalog.Numbers handler.tokens ∧
      host.CodesAs files config format (.encode handler tokens) journal
        (fun ids => wordsText (decimals ids)) (encodeAll catalog tokens) := by
  obtain ⟨catalog, hcatalog, hperform⟩ :=
    Command.perform_encode host.keepsLog host.fuel config none handler journal tokens
  exact ⟨catalog, hcatalog, codesAs_of_perform host files config rfl hperform
    fun _ => List.append_nil _⟩

theorem decode_codesAs (format : OutputFormat) (ids : List UInt16) (journal : Journal) :
    ∃ catalog : Catalog, catalog.Numbers handler.tokens ∧
      host.CodesAs files config format (.decode handler ids) journal wordsText
        (decodeAll catalog ids) := by
  obtain ⟨catalog, hcatalog, hperform⟩ :=
    Command.perform_decode host.keepsLog host.fuel config none handler journal ids
  exact ⟨catalog, hcatalog, codesAs_of_perform host files config rfl hperform
    fun _ => List.append_nil _⟩

variable {handler} {tokens : List String} {ids : List UInt16} (journal : Journal)

theorem encode_shows (hroom : host.room = none)
    (h : ∀ {catalog : Catalog}, catalog.Numbers handler.tokens →
      encodeAll catalog tokens = .ok ids) :
    ∃ last, host.outcome files config .human (.encode handler tokens) journal = some last ∧
      last.Shows (wordsText (decimals ids)) := by
  obtain ⟨catalog, hcatalog, last, hlast, hshows⟩ :=
    host.encode_codesAs files config handler .human tokens journal
  rw [h hcatalog] at hshows
  exact ⟨last, hlast, hshows hroom rfl⟩

theorem decode_shows (hroom : host.room = none)
    (h : ∀ {catalog : Catalog}, catalog.Numbers handler.tokens →
      decodeAll catalog ids = .ok tokens) :
    ∃ last, host.outcome files config .human (.decode handler ids) journal = some last ∧
      last.Shows (wordsText tokens) := by
  obtain ⟨catalog, hcatalog, last, hlast, hshows⟩ :=
    host.decode_codesAs files config handler .human ids journal
  rw [h hcatalog] at hshows
  exact ⟨last, hlast, hshows hroom rfl⟩

-- From the line that was written, the ids are found again.
theorem encode_shows_ids (hroom : host.room = none) (hne : ids ≠ []) {last : Outcome}
    (hlast : host.outcome files config .human (.decode handler ids) journal = some last)
    (hdone : last.succeeded = true) :
    ∃ line, last.Shows (line ++ "\n") ∧ ∀ further, ∃ back,
      host.outcome files config .human (.encode handler (Text.partsAt ' ' line)) further =
        some back ∧ back.Shows (wordsText (decimals ids)) := by
  obtain ⟨catalog, hcatalog, other, hother, hshows⟩ :=
    host.decode_codesAs files config handler .human ids journal
  obtain rfl : other = last := Option.some.inj (hother.symm.trans hlast)
  cases hdecode : decodeAll catalog ids with
  | error cause =>
      rw [hdecode] at hshows
      exact absurd (hdone.symm.trans hshows.succeeded) (by decide)
  | ok tokens =>
      rw [hdecode] at hshows
      have hne : tokens ≠ [] := by
        rintro rfl
        exact hne (Except.ok.inj (hcatalog.encode_of_decode_stream hcatalog hdecode)).symm
      have hspaces : ∀ token ∈ tokens, ' ' ∉ token.toList := fun token hmem =>
        HandlerName.space_not_mem (hcatalog.mem_of_decode_stream hdecode hmem)
      have hparts : Text.partsAt ' ' (" ".intercalate tokens) = tokens :=
        Text.partsAt_intercalate hne hspaces
      refine ⟨" ".intercalate tokens, hshows hroom rfl, fun further => ?_⟩
      rw [hparts]
      exact host.encode_shows files config further hroom fun hreader =>
        hcatalog.encode_of_decode_stream hreader hdecode

end Streams

-- The ids of a stream of tokens lead back to the stream, and the tokens of a stream of ids to the
-- ids, also when they are taken from what was written. The first item without a counterpart is
-- the fault of the whole stream, of which nothing is written then.
theorem execute_recodes (host : Host) (files : SystemText → FileAnswer) (config : Config)
    (handler : HandlerName) :
    let outcome := host.outcome files config
    (host.room = none →
      (∀ tokens, tokens ≠ [] → (∀ token ∈ tokens, token ∈ handler.tokens) → ∀ journal further,
        let ids := tokens.map handler.idOf
        (∃ last, outcome .human (.encode handler tokens) journal = some last ∧
          last.Shows (wordsText (decimals ids))) ∧
        (∃ last, outcome .human (.decode handler ids) further = some last ∧
          last.Shows (wordsText tokens)) ∧
        Text.partsAt ' ' (" ".intercalate tokens) = tokens) ∧
      ∀ ids, ids ≠ [] → ∀ journal,
        ((∀ id ∈ ids, id.toNat < handler.tokens.length) → ∃ last,
          outcome .human (.decode handler ids) journal = some last ∧ last.succeeded = true) ∧
        ∀ last, outcome .human (.decode handler ids) journal = some last →
          last.succeeded = true → ∃ line, last.Shows (line ++ "\n") ∧ ∀ further, ∃ back,
            outcome .human (.encode handler (Text.partsAt ' ' line)) further = some back ∧
            back.Shows (wordsText (decimals ids))) ∧
    ∀ format journal,
      (∀ before token after, (∀ other ∈ before, other ∈ handler.tokens) →
        token ∉ handler.tokens → ∃ last,
          outcome format (.encode handler (before ++ token :: after)) journal = some last ∧
          last.Fails (.codec (.unknownToken token))) ∧
      ∀ before id after, (∀ other ∈ before, other.toNat < handler.tokens.length) →
        handler.tokens.length ≤ id.toNat → ∃ last,
          outcome format (.decode handler (before ++ id :: after)) journal = some last ∧
          last.Fails (.codec (.unknownId id)) := by
  intro outcome
  refine ⟨fun hroom => ⟨?_, ?_⟩, fun format journal => ⟨?_, ?_⟩⟩
  · intro tokens hne htokens journal further ids
    refine ⟨?_, ?_, ?_⟩
    · exact host.encode_shows files config journal hroom fun hcatalog =>
        hcatalog.encode_stream htokens
    · exact host.decode_shows files config further hroom fun hcatalog =>
        hcatalog.decode_of_encode_stream hcatalog (hcatalog.encode_stream htokens)
    · exact Text.partsAt_intercalate hne fun token hmem =>
        HandlerName.space_not_mem (htokens token hmem)
  · intro ids hne journal
    refine ⟨fun hissued => ?_, fun last hlast hdone => ?_⟩
    · obtain ⟨catalog, hcatalog, last, hlast, hshows⟩ :=
        host.decode_codesAs files config handler .human ids journal
      obtain ⟨tokens, htokens⟩ := hcatalog.decode_stream hissued
      rw [decodeAll, htokens] at hshows
      exact ⟨last, hlast, (hshows hroom rfl).succeeded⟩
    · exact host.encode_shows_ids files config journal hroom hne hlast hdone
  · intro before token after hbefore htoken
    obtain ⟨catalog, hcatalog, last, hlast, hfails⟩ :=
      host.encode_codesAs files config handler format (before ++ token :: after) journal
    rw [encodeAll, hcatalog.encode_stream_refused hbefore htoken] at hfails
    exact ⟨last, hlast, hfails⟩
  · intro before id after hbefore hid
    obtain ⟨catalog, hcatalog, last, hlast, hfails⟩ :=
      host.decode_codesAs files config handler format (before ++ id :: after) journal
    rw [decodeAll, hcatalog.decode_stream_refused hbefore hid] at hfails
    exact ⟨last, hlast, hfails⟩

-- Three words of the stack machine and back, and a stream that a number ends before an unknown
-- word is reached.
theorem execute_recodes_words :
    let host : Host := ⟨0, none, false⟩
    let outcome (command : Command) :=
      host.outcome (fun _ => .error .missing) .standard .human command .nothing
    (∃ last, outcome (.encode .forth ["dup", "*", "."]) = some last ∧ last.Shows "7 2 5\n") ∧
    (∃ last, outcome (.decode .forth [7, 2, 5]) = some last ∧ last.Shows "dup * .\n") ∧
    (∃ last, outcome (.encode .forth ["dup", "64", "nope"]) = some last ∧
      last.Fails (.codec (.unknownToken "64"))) ∧
    ∃ last, outcome (.decode .forth [9, 10, 11]) = some last ∧
      last.Fails (.codec (.unknownId 10)) := by
  intro host outcome
  obtain ⟨hstreams, hfaults⟩ := execute_recodes host (fun _ => .error .missing) .standard .forth
  obtain ⟨htoken, hid⟩ := hfaults .human .nothing
  obtain ⟨hencode, hdecode, -⟩ := (hstreams rfl).1 ["dup", "*", "."] (by decide) (by decide)
    .nothing .nothing
  exact ⟨hencode, hdecode, htoken ["dup"] "64" ["nope"] (by decide) (by decide),
    hid [9] 10 [11] (List.forall_mem_singleton.mpr (by decide)) (by decide)⟩

end Host

end Switchboard
