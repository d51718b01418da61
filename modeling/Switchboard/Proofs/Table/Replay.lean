import Switchboard.Proofs.Table.Batch
import Switchboard.Proofs.Table.Helpers

namespace Switchboard

-- An event of this kind may come from anyone, also from a method that dispatches tokens itself.
def Event.isDispatch (event : Event) : Bool := event.message == "dispatching token"

namespace Journal

theorem wanted_record (journal : Journal) (event : Event) :
    (journal.record event).wanted = journal.wanted := by
  unfold record
  split <;> rfl

theorem events_record (journal : Journal) (event : Event) :
    (journal.record event).events = journal.events ++ [event].filter journal.wanted := by
  by_cases h : journal.wanted event <;> simp [record, events, h]

-- Only what is wanted is kept, in the order in which it was told.
theorem events_recordAll (journal : Journal) (events : List Event) :
    (journal.recordAll events).events = journal.events ++ events.filter journal.wanted := by
  induction events generalizing journal with
  | nil => simp [recordAll]
  | cons event events ih =>
      have hrest := ih (journal.record event)
      rw [events_record, wanted_record, List.append_assoc, ← List.filter_append] at hrest
      exact hrest

theorem recordAll_append (journal : Journal) (events later : List Event) :
    (journal.recordAll events).recordAll later = journal.recordAll (events ++ later) :=
  List.foldl_append.symm

end Journal

namespace Logged

variable {α β : Type} {action : Logged α} {events : List Event}

theorem bind_of_run {answer : α} {journal journal' : Journal}
    (h : action.run journal = (answer, journal')) (next : α → Logged β) :
    (action >>= next).run journal = (next answer).run journal' := by
  rw [StateT.run_bind, h]
  rfl

theorem events_told (h : ∀ journal, (action.run journal).2 = journal.recordAll events) :
    action.told.events = events := by
  change (action.run .everything).2.events = events
  rw [h, Journal.events_recordAll]
  simp [Journal.events, Journal.everything]

theorem told_eq {value : α}
    (h : ∀ journal, action.run journal = (value, journal.recordAll events)) :
    action.told = ⟨value, events⟩ := by
  have hevents := events_told fun journal => congrArg Prod.snd (h journal)
  have hvalue : action.told.value = value := congrArg Prod.fst (h .everything)
  rw [← hvalue, ← hevents]

end Logged

-- The method changes its handler without a word.
def Binding.Silent {H : Type} : Binding H → Prop
  | .action run => ∀ handler, (run handler).events = []
  | .integer run => ∀ handler value, (run handler value).events = []
  | .text run => ∀ handler token, (run handler token).events = []

namespace Table

variable {H : Type} {α : Type} {table : Table H} {tableOf : H → Table H} {handler : H}
  {token : String} {route : Route} {tokens : List String} {log : List (String × Route)}

-- The handler behind tokens that are dispatched to it one by one, with nobody listening.
def replayed (table : Table H) (handler : H) (tokens : List String) : H :=
  ((throughEach (fun _ => table) handler tokens).run .nothing).1

-- What the method that takes a token tells when it is called.
def spoken (table : Table H) (handler : H) (token : String) : List Event :=
  match table.target? token with
  | none => []
  | some target => (target.invoke token handler).events

-- No method dispatches tokens itself, whatever else it tells.
def Shallow (table : Table H) : Prop :=
  ∀ handler token, ∀ event ∈ table.spoken handler token, event.isDispatch = false

def logEvents (log : List (String × Route)) : List Event :=
  log.map fun (token, route) => dispatchEvent token route

-- All that is told of tokens that are taken one after another: of each, its route, and behind that
-- what its method tells.
def narration (table : Table H) : H → List (String × Route) → List Event
  | _, [] => []
  | handler, (token, route) :: rest =>
      dispatchEvent token route ::
        (table.spoken handler token ++ narration table (table.replayed handler [token]) rest)

-- What a computation tells of dispatch: these tokens in this order, each with the route that it has
-- in the table. Whoever listens hears of all that is told as far as it is wanted.
structure IsLog (table : Table H) (action : Logged α) (log : List (String × Route)) : Prop where
  dispatching : action.told.events.filter Event.isDispatch = logEvents log
  route_eq : ∀ entry ∈ log, table.route entry.1 = .ok entry.2
  heard : ∀ listener, (action.run listener).2.events =
    listener.events ++ action.told.events.filter listener.wanted

theorem route_refused (hroute : ∀ route, table.route token ≠ .ok route) :
    table.route token = .error (.unknownToken token) := by
  unfold Table.route at hroute ⊢
  cases htarget : table.target? token with
  | none => rfl
  | some target =>
      rw [htarget] at hroute
      exact absurd rfl (hroute target.route)

-- A token that is taken is told, and then its method is called.
theorem dispatch_taken (hroute : table.route token = .ok route) (handler : H) (journal : Journal) :
    (table.dispatch handler token).run journal =
      ((.ok route, table.replayed handler [token]),
        journal.recordAll (dispatchEvent token route :: table.spoken handler token)) := by
  unfold Table.route at hroute
  cases htarget : table.target? token with
  | none =>
      rw [htarget] at hroute
      cases hroute
  | some target =>
      rw [htarget] at hroute
      obtain rfl := Except.ok.inj hroute
      have hreplayed : table.replayed handler [token] = (target.invoke token handler).value := by
        have houtcome := dispatch_outcome table handler token .nothing
        rw [htarget] at houtcome
        exact congrArg Prod.snd houtcome
      rw [hreplayed, spoken, htarget]
      unfold dispatch
      rw [htarget]
      rfl

theorem throughEach_replayed (table : Table H) (handler : H) (tokens : List String)
    (journal : Journal) :
    ((throughEach (fun _ => table) handler tokens).run journal).1 = table.replayed handler tokens :=
  throughEach_listener _ handler tokens journal .nothing

theorem replayed_append (table : Table H) (handler : H) (before after : List String) :
    table.replayed handler (before ++ after) =
      table.replayed (table.replayed handler before) after := by
  rw [replayed, throughEach, List.foldlM_append]
  exact throughEach_replayed table _ after _

theorem throughEach_kept (h : table.KeptBy tableOf handler) (tokens : List String)
    (journal : Journal) :
    (throughEach tableOf handler tokens).run journal =
      (throughEach (fun _ => table) handler tokens).run journal := by
  induction tokens generalizing handler journal with
  | nil => rfl
  | cons token tokens ih =>
      rw [throughEach_cons, throughEach_cons, dispatchVia, dispatchVia, h.tableOf_eq]
      exact ih (h.dispatched token journal) _

-- Tokens that are all taken are all told.
theorem throughEach_narrated (hlog : ∀ entry ∈ log, table.route entry.1 = .ok entry.2) (handler : H)
    (journal : Journal) :
    (throughEach (fun _ => table) handler (log.map Prod.fst)).run journal =
      (table.replayed handler (log.map Prod.fst),
        journal.recordAll (table.narration handler log)) := by
  refine Prod.ext (throughEach_replayed table handler _ journal) ?_
  induction log generalizing handler journal with
  | nil => rfl
  | cons entry log ih =>
      obtain ⟨hentry, hrest⟩ := List.forall_mem_cons.mp hlog
      rw [List.map_cons, throughEach_cons, dispatchVia, dispatch_taken hentry, narration,
        ← List.cons_append, ← Journal.recordAll_append]
      exact ih hrest _ _

-- Of what is told, only the routes are about dispatch if no method dispatches.
theorem Shallow.filter_narration (h : table.Shallow) (handler : H) (log : List (String × Route)) :
    (table.narration handler log).filter Event.isDispatch = logEvents log := by
  induction log generalizing handler with
  | nil => rfl
  | cons entry log ih =>
      have hspoken : (table.spoken handler entry.1).filter Event.isDispatch = [] := by
        simpa using h handler entry.1
      have hentry : (dispatchEvent entry.1 entry.2).isDispatch = true := rfl
      rw [narration, List.filter_cons_of_pos hentry, List.filter_append, hspoken, ih]
      rfl

theorem map_fst_of_logEvents {other : List (String × Route)} (h : logEvents log = logEvents other) :
    log.map Prod.fst = other.map Prod.fst := by
  let field (token : String) : Option (String × FieldValue) := some ("token", .text token)
  have hfield : Function.Injective field := by
    intro token token' htoken
    simpa [field] using htoken
  have hfields := congrArg (List.map fun event => event.fields.head?) h
  simp only [logEvents, List.map_map] at hfields
  apply List.map_injective_iff.mpr hfield
  rw [List.map_map, List.map_map]
  exact hfields

-- A token that an action takes: where it goes, what it leaves and what its method tells.
theorem action_taken {set : MethodSet H} {methods : List (Method H)} (domain : Domain)
    (h : set.Binds methods) {slot : Nat} {method : Method H} {run : H → Told H}
    (hmethod : (Method.actionsOf methods)[slot]? = some method)
    (hbinding : method.binding = some (.action run)) :
    (ofMethodSet set domain).route method.token = .ok (.action slot) ∧ ∀ handler,
      (ofMethodSet set domain).replayed handler [method.token] = (run handler).value ∧
      (ofMethodSet set domain).spoken handler method.token = (run handler).events := by
  obtain ⟨found, hfound, htarget⟩ := target?_action domain h hmethod rfl
  obtain rfl : run = found := Binding.action.inj (Option.some.inj (hbinding.symm.trans hfound))
  refine ⟨by rw [route, htarget]; rfl, fun handler => ⟨?_, by rw [spoken, htarget]; rfl⟩⟩
  exact congrArg Prod.snd (dispatch_action domain h handler .nothing hmethod hbinding)

section Silent

variable {methods : List (Method H)} {domain : Domain} {journal : Journal}
  (hsilent : ∀ method ∈ methods, ∀ binding ∈ method.binding, binding.Silent)
  (h : ((compile methods domain).run journal).1 = .ok table)

include hsilent h

theorem spoken_eq_nil (handler : H) (token : String) : table.spoken handler token = [] := by
  obtain ⟨set, -, hset, -, rfl⟩ := exists_binds h
  unfold spoken
  cases htarget : (ofMethodSet set domain).target? token with
  | none => rfl
  | some target =>
      obtain ⟨method, hmethod, -, hbinding⟩ := exists_method_of_target? domain hset htarget
      have hbody : target.body.Silent := hsilent method hmethod _ hbinding
      cases target with
      | action slot run => exact hbody handler
      | integer value run => exact hbody handler value
      | text run => exact hbody handler token

-- Methods that say nothing do not dispatch either.
theorem shallow_of_silent : table.Shallow := by
  intro handler token event hmem
  rw [spoken_eq_nil hsilent h] at hmem
  cases hmem

theorem narration_of_silent (handler : H) (log : List (String × Route)) :
    table.narration handler log = logEvents log := by
  induction log generalizing handler with
  | nil => rfl
  | cons entry log ih =>
      rw [narration, spoken_eq_nil hsilent h, ih]
      rfl

end Silent

-- Tokens up to the first that goes nowhere, with their routes.
theorem exists_log (table : Table H) (tokens : List String) : ∃ log : List (String × Route),
    (∀ entry ∈ log, table.route entry.1 = .ok entry.2) ∧
    (log.map Prod.fst = tokens ∨ ∃ token after, tokens = log.map Prod.fst ++ token :: after ∧
      table.route token = .error (.unknownToken token)) := by
  induction tokens with
  | nil => exact ⟨[], nofun, .inl rfl⟩
  | cons token tokens ih =>
      by_cases hroute : ∃ route, table.route token = .ok route
      · obtain ⟨route, hroute⟩ := hroute
        obtain ⟨log, hlog, hends⟩ := ih
        refine ⟨(token, route) :: log, List.forall_mem_cons.mpr ⟨hroute, hlog⟩, ?_⟩
        obtain rfl | ⟨bad, after, rfl, hbad⟩ := hends
        · exact .inl rfl
        · exact .inr ⟨bad, after, rfl, hbad⟩
      · rw [not_exists] at hroute
        exact ⟨[], nofun, .inr ⟨token, tokens, rfl, route_refused hroute⟩⟩

-- A log can be read off what is told behind something that is not about dispatch.
theorem Shallow.isLog {action : Logged α} {before : List Event} (h : table.Shallow)
    (htold : ∀ journal, (action.run journal).2 =
      journal.recordAll (before ++ table.narration handler log))
    (hbefore : ∀ event ∈ before, event.isDispatch = false)
    (hlog : ∀ entry ∈ log, table.route entry.1 = .ok entry.2) : table.IsLog action log where
  dispatching := by
    have hnone : before.filter Event.isDispatch = [] := by simpa using hbefore
    rw [Logged.events_told htold, List.filter_append, hnone, h.filter_narration, List.nil_append]
  route_eq := hlog
  heard listener := by rw [Logged.events_told htold, htold, Journal.events_recordAll]

theorem dispatchAll_replayed (table : Table H) (handler : H) (tokens : List String) :
    ∃ (log : List (String × Route)) (answer : Except DispatchError Nat),
      (∀ entry ∈ log, table.route entry.1 = .ok entry.2) ∧
      (∀ journal, (table.dispatchAll handler tokens).run journal =
        ((answer, table.replayed handler (log.map Prod.fst)),
          journal.recordAll (table.narration handler log))) ∧
      (answer = .ok tokens.length ∧ log.map Prod.fst = tokens ∨
        ∃ token after, answer = .error (.unknownToken token) ∧
          tokens = log.map Prod.fst ++ token :: after ∧
          table.route token = .error (.unknownToken token)) := by
  have hkept : table.KeptBy (fun _ => table) handler := fun _ _ => rfl
  obtain ⟨log, hlog, hends⟩ := table.exists_log tokens
  have htaken : ∀ token ∈ log.map Prod.fst, ∃ route, table.route token = .ok route := by
    intro token hmem
    obtain ⟨entry, hentry, rfl⟩ := List.mem_map.mp hmem
    exact ⟨_, hlog entry hentry⟩
  have heach := throughEach_narrated hlog handler
  obtain hall | ⟨token, after, hsplit, hroute⟩ := hends
  · refine ⟨log, .ok tokens.length, hlog, fun journal => ?_, .inl ⟨rfl, hall⟩⟩
    have hbatch := dispatchAllFrom_taken hkept htaken 0 journal
    rw [heach, hall, Nat.zero_add] at hbatch
    rw [hall]
    exact hbatch
  · refine ⟨log, .error (.unknownToken token), hlog, fun journal => ?_,
      .inr ⟨token, after, rfl, hsplit, hroute⟩⟩
    have hrefused : ∀ route, table.route token ≠ .ok route :=
      fun route hok => nomatch hroute.symm.trans hok
    have hbatch : (table.dispatchAllFrom 0 handler (log.map Prod.fst ++ token :: after)).run
        journal = _ := dispatchAllFrom_refused hkept htaken hrefused 0 journal
    rw [heach, ← hsplit] at hbatch
    exact hbatch

end Table

end Switchboard
