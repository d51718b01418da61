import Switchboard.Proofs.StackMachine.Frame
import Switchboard.Proofs.Table.Replay

namespace Switchboard

open Table

namespace StackMachine

variable {table : Table StackMachine} {machine : StackMachine} {word : String}
  {words logged : List String} {route : Route} {fault : StackFault}

-- No fault is pending before these words, between them or behind them.
def Clean (table : Table StackMachine) (machine : StackMachine) (words : List String) : Prop :=
  ∀ front, front <+: words → (table.replayed machine front).fault = none

-- How a line of words may end, told by a copy of the machine that is given the logged words one by
-- one. All words are logged, or those before one that nothing takes, or those up to the first that
-- leaves a fault behind. A fault stays with the copy, but the line hands it over.
inductive Ends (table : Table StackMachine) (machine : StackMachine) (words : List String) :
    (logged : List String) → Except StackFault Unit × StackMachine → Prop where
  | through (hclean : Clean table machine words) :
      Ends table machine words words (.ok (), table.replayed machine words)
  | refused {before after : List String} {word : String} {cause : DispatchError}
      (hsplit : words = before ++ word :: after) (hclean : Clean table machine before)
      (hroute : table.route word = .error cause) :
      Ends table machine words before (.error (.unroutable cause), table.replayed machine before)
  | failed {before after : List String} {word : String} {fault : StackFault}
      (hsplit : words = before ++ word :: after) (hclean : Clean table machine before)
      (hfault : (table.replayed machine (before ++ [word])).fault = some fault) :
      Ends table machine words (before ++ [word])
        (.error fault, { table.replayed machine (before ++ [word]) with fault := none })

theorem clean_nil (hclean : machine.fault = none) : Clean table machine [] := by
  intro front hfront
  rw [List.prefix_nil.mp hfront]
  exact hclean

theorem Clean.cons (h : Clean table (table.replayed machine [word]) words)
    (hclean : machine.fault = none) : Clean table machine (word :: words) := by
  intro front hfront
  obtain rfl | ⟨rest, rfl, hrest⟩ := List.prefix_cons_iff.mp hfront
  · exact hclean
  · exact (congrArg fault (replayed_append table machine [word] rest)).trans (h rest hrest)

theorem Ends.cons {answer : Except StackFault Unit × StackMachine}
    (h : Ends table (table.replayed machine [word]) words logged answer)
    (hclean : machine.fault = none) :
    Ends table machine (word :: words) (word :: logged) answer := by
  have hreplayed : ∀ tokens, table.replayed (table.replayed machine [word]) tokens =
      table.replayed machine (word :: tokens) :=
    fun tokens => (replayed_append table machine [word] tokens).symm
  cases h with
  | through hrest =>
      rw [hreplayed]
      exact .through (hrest.cons hclean)
  | refused hsplit hrest hroute =>
      rw [hreplayed]
      exact .refused (congrArg (word :: ·) hsplit) (hrest.cons hclean) hroute
  | failed hsplit hrest hfault =>
      rw [hreplayed] at hfault ⊢
      exact .failed (congrArg (word :: ·) hsplit) (hrest.cons hclean) hfault

theorem Ends.logged_eq {answer : Except StackFault Unit × StackMachine}
    (h : Ends table machine words logged answer) (hanswer : answer.1 = .ok ()) :
    logged = words := by
  cases h with
  | through => rfl
  | refused => cases hanswer
  | failed => cases hanswer

-- Up to the last word that is logged, a line and a copy go the same way.
theorem Ends.same_cells {answer : Except StackFault Unit × StackMachine}
    (h : Ends table machine words logged answer) :
    answer.2.stack = (table.replayed machine logged).stack ∧
      answer.2.output = (table.replayed machine logged).output := by
  cases h with
  | through => exact ⟨rfl, rfl⟩
  | refused => exact ⟨rfl, rfl⟩
  | failed => exact ⟨rfl, rfl⟩

-- A word is logged before its method is called, so the log has a word that leaves a fault behind.
theorem runWords_failed (hroute : table.route word = .ok route)
    (hfault : (table.replayed machine [word]).fault = some fault) (rest : List String)
    (journal : Journal) : (runWords table machine (word :: rest)).run journal =
      ((.error fault, { table.replayed machine [word] with fault := none }),
        journal.recordAll (dispatchEvent word route :: table.spoken machine word)) := by
  rw [runWords, Logged.bind_of_run (dispatch_taken hroute machine journal)]
  simp only [hfault]
  rfl

theorem runWords_passed (hroute : table.route word = .ok route)
    (hfault : (table.replayed machine [word]).fault = none) (rest : List String)
    (journal : Journal) : (runWords table machine (word :: rest)).run journal =
      (runWords table (table.replayed machine [word]) rest).run
        (journal.recordAll (dispatchEvent word route :: table.spoken machine word)) := by
  rw [runWords, Logged.bind_of_run (dispatch_taken hroute machine journal)]
  simp only [hfault]

theorem runWords_replayed (table : Table StackMachine) (hclean : machine.fault = none)
    (words : List String) :
    ∃ (log : List (String × Route)) (answer : Except StackFault Unit × StackMachine),
      (∀ entry ∈ log, table.route entry.1 = .ok entry.2) ∧
      (∀ journal, (runWords table machine words).run journal =
        (answer, journal.recordAll (table.narration machine log))) ∧
      Ends table machine words (log.map Prod.fst) answer := by
  induction words generalizing machine with
  | nil => exact ⟨[], _, nofun, fun _ => rfl, .through (clean_nil hclean)⟩
  | cons word rest ih =>
      have hsplit : word :: rest = [] ++ word :: rest := rfl
      by_cases hroute : ∃ route, table.route word = .ok route
      · obtain ⟨route, hroute⟩ := hroute
        cases hfault : (table.replayed machine [word]).fault with
        | some fault =>
            refine ⟨[(word, route)], _, by simpa using hroute, fun journal => ?_,
              .failed hsplit (clean_nil hclean) hfault⟩
            rw [runWords_failed hroute hfault, narration, narration, List.append_nil]
            rfl
        | none =>
            obtain ⟨log, answer, hlog, hrest, hends⟩ := ih hfault
            refine ⟨(word, route) :: log, answer, List.forall_mem_cons.mpr ⟨hroute, hlog⟩,
              fun journal => ?_, hends.cons hclean⟩
            rw [runWords_passed hroute hfault, hrest, narration, ← List.cons_append,
              ← Journal.recordAll_append]
      · rw [not_exists] at hroute
        refine ⟨[], _, nofun, fun journal => ?_,
          .refused hsplit (clean_nil hclean) (route_refused hroute)⟩
        rw [runWords, dispatch_refused hroute, pure_bind]
        rfl

-- What a line tells before its first word.
def lineEvent (line : String) : Event where
  level := .debug
  target := eventTarget
  message := "executing line"
  fields := [("line", .text line)]

theorem runLine_replayed (table : Table StackMachine) (hclean : machine.fault = none)
    (line : String) : ∃ log : List (String × Route),
      (∀ entry ∈ log, table.route entry.1 = .ok entry.2) ∧
      (∀ listener, ((runLine table machine line).run listener).2 =
        listener.recordAll ([lineEvent line] ++ table.narration machine log)) ∧
      ∀ listener, Ends table machine (Text.words line) (log.map Prod.fst)
        ((runLine table machine line).run listener).1 := by
  obtain ⟨log, answer, hlog, hwords, hends⟩ :=
    runWords_replayed table hclean (Text.words line)
  have hrun : ∀ listener, (runLine table machine line).run listener =
      (answer, listener.recordAll ([lineEvent line] ++ table.narration machine log)) :=
    fun listener => hwords (listener.record (lineEvent line))
  refine ⟨log, hlog, fun listener => by rw [hrun], fun listener => ?_⟩
  rw [hrun]
  exact hends

-- No word dispatches further words.
theorem methods_silent : ∀ method ∈ Handler.methods (H := StackMachine),
    ∀ binding ∈ method.binding, binding.Silent := by
  intro method hmem binding hbinding
  simp only [Handler.methods, List.mem_cons, List.not_mem_nil, or_false] at hmem
  rcases hmem with rfl | rfl | rfl | rfl | rfl | rfl | rfl | rfl | rfl | rfl | rfl | rfl <;>
    cases hbinding
  · exact fun _ _ => rfl
  all_goals exact fun _ => rfl

end StackMachine

namespace Table

open StackMachine

-- The log of a run is enough to repeat it. It holds the tokens that were taken, each with its
-- route, and neither the one that stopped a batch nor any behind that. A line logs the word that
-- left a fault behind as well, and the fault is all in which a copy then differs from the machine.
-- What the methods tell stands between the entries of the log. As long as none of them dispatches
-- tokens itself, the entries are all that is told of dispatch.
theorem log_replays :
    (∀ (H : Type) (tableOf : H → Table H) (handler : H) (tokens : List String),
      let table := tableOf handler
      let batch := dispatchAllVia tableOf handler tokens
      ∃ log : List (String × Route),
        (∀ entry ∈ log, table.route entry.1 = .ok entry.2) ∧
        batch.told.events = table.narration handler log ∧
        (table.Shallow → table.IsLog batch log) ∧ ∀ listener,
        let answer := (batch.run listener).1
        let logged := log.map Prod.fst
        answer.2 = table.replayed handler logged ∧
        (throughEach (fun _ => table) handler logged).told = ⟨answer.2, batch.told.events⟩ ∧
        (table.KeptBy tableOf handler →
          answer.2 = ((throughEach tableOf handler logged).run listener).1) ∧
        (answer.1 = .ok tokens.length ∧ logged = tokens ∨
          ∃ token after, answer.1 = .error (.unknownToken token) ∧
            tokens = logged ++ token :: after ∧
            table.route token = .error (.unknownToken token))) ∧
    (∀ (table : Table StackMachine) (machine : StackMachine) (line : String),
      machine.fault = none → ∃ log : List (String × Route),
        (∀ entry ∈ log, table.route entry.1 = .ok entry.2) ∧
        (runLine table machine line).told.events =
          lineEvent line :: table.narration machine log ∧
        (table.Shallow → table.IsLog (runLine table machine line) log) ∧ ∀ listener,
        let answer := ((runLine table machine line).run listener).1
        let logged := log.map Prod.fst
        answer.2.stack = (table.replayed machine logged).stack ∧
        answer.2.output = (table.replayed machine logged).output ∧
        Ends table machine (Text.words line) logged answer) ∧
    ∀ domain journal table,
      ((Handler.compileTable StackMachine domain).run journal).1 = .ok table → table.Shallow := by
  refine ⟨fun H tableOf handler tokens => ?_, fun table machine line hclean => ?_,
    fun domain journal table hcompile => shallow_of_silent methods_silent hcompile⟩
  · intro table batch
    obtain ⟨log, answer, hlog, hrun, hends⟩ := table.dispatchAll_replayed handler tokens
    have htold : ∀ journal, (batch.run journal).2 =
        journal.recordAll ([] ++ table.narration handler log) :=
      fun journal => congrArg Prod.snd (hrun journal)
    have hevents : batch.told.events = table.narration handler log := Logged.events_told htold
    refine ⟨log, hlog, hevents, fun hshallow => hshallow.isLog htold (by simp) hlog,
      fun listener => ?_⟩
    have hanswer : (batch.run listener).1 = (answer, table.replayed handler (log.map Prod.fst)) :=
      congrArg Prod.fst (hrun listener)
    simp only [hanswer]
    refine ⟨trivial, ?_, fun hkept => ?_, hends⟩
    · rw [hevents, Logged.told_eq (throughEach_narrated hlog handler)]
    · rw [throughEach_kept hkept, throughEach_replayed]
  · obtain ⟨log, hlog, htold, hends⟩ := runLine_replayed table hclean line
    refine ⟨log, hlog, Logged.events_told htold,
      fun hshallow => hshallow.isLog htold (by simp [lineEvent, Event.isDispatch]) hlog,
      fun listener => ?_⟩
    exact ⟨(hends listener).same_cells.1, (hends listener).same_cells.2, hends listener⟩

-- The line stops at its sixth word, which does not find enough on the stack.
theorem log_replays_underflow :
    ∃ table, ((Handler.compileTable StackMachine .i64).run .nothing).1 = .ok table ∧
      let machine : StackMachine := ⟨[], "", none⟩
      let run := runLine table machine "1 2 + dup . / nope"
      machine.fault = none ∧ (run.run .nothing).1.1 = .error (.stackUnderflow "/" 2 1) ∧
        ∃ log, table.IsLog run log ∧
          (table.replayed machine (log.map Prod.fst)).slate = ⟨[3], "3 "⟩ := by
  obtain ⟨table, hcompile⟩ := Table.exists_of_faultless methods_faultless .i64 .nothing
  obtain ⟨set, -, hset, -, rfl⟩ := Table.exists_binds hcompile
  refine ⟨_, hcompile, ?_⟩
  intro machine run
  have hcharged : Slate.Charged .i64 machine.slate _ _ _ :=
    runLine_charged hset rfl .i64 "1 2 + dup . / nope" .nothing
  have hsplit : Text.words "1 2 + dup . / nope" =
      ["1", "2", "+", "dup", "."] ++ "/" :: ["nope"] := by decide
  have hbefore : ["1", "2", "+", "dup", "."].foldlM (Slate.apply .i64) machine.slate =
      .ok ⟨[3], "3 "⟩ := rfl
  obtain ⟨hfault, hslate⟩ := hcharged.unique (.first hsplit hbefore rfl)
  obtain ⟨-, hlines, hshallow⟩ := log_replays
  obtain ⟨log, -, -, hlog, hreplays⟩ := hlines (ofMethodSet set .i64) machine _ rfl
  obtain ⟨hstack, houtput, -⟩ := hreplays .nothing
  refine ⟨rfl, hfault, log, hlog (hshallow _ _ _ hcompile), ?_⟩
  rw [← hslate, slate, slate, hstack, houtput]

-- A counter with two methods. The second counts by dispatching the token of the first.
def once : Method Nat := Method.action "once" Nat.succ

def twice (inner : Table Nat) : Method Nat :=
  Method.action "twice" fun count => (throughEach (fun _ => inner) count ["once", "once"]).told

-- What is told of one call of the second method.
def nestedLog : List (String × Route) :=
  [("twice", .action 1), ("once", .action 0), ("once", .action 0)]

section Counter

variable {inner : Table Nat}

theorem roles_counter : ∀ method ∈ [once, twice inner], method.role = .action := by
  have honce : once.role = .action := by decide
  have htwice : (Method.action "twice" Told.silent : Method Nat).role = .action := by decide
  exact List.forall_mem_cons.mpr ⟨honce, List.forall_mem_singleton.mpr htwice⟩

theorem actionsOf_counter : Method.actionsOf [once, twice inner] = [once, twice inner] := by
  rw [Method.actionsOf, List.filter_eq_self]
  simpa using roles_counter

theorem faultless_counter : Method.Faultless [once, twice inner] := by
  refine Method.faultless_of_actions (by simp [catalogLimit]) roles_counter ?_ ?_
  · exact List.forall_mem_cons.mpr ⟨⟨_, rfl⟩, List.forall_mem_singleton.mpr ⟨_, rfl⟩⟩
  · change ["once", "twice"].Nodup
    decide

variable {innerSet set : MethodSet Nat} {methods : List (Method Nat)}

theorem once_taken (h : set.Binds methods)
    (honce : (Method.actionsOf methods)[0]? = some once) :
    (ofMethodSet set .i8).route "once" = .ok (.action 0) ∧ ∀ count,
      (ofMethodSet set .i8).replayed count ["once"] = count + 1 ∧
      (ofMethodSet set .i8).spoken count "once" = [] := by
  have hbinding : once.binding = some (.action fun count => Told.silent count.succ) := rfl
  exact action_taken .i8 h honce hbinding

theorem throughEach_once (h : set.Binds [once]) (count : Nat) :
    (throughEach (fun _ => ofMethodSet set .i8) count ["once", "once"]).told =
      ⟨count + 2, logEvents [("once", .action 0), ("once", .action 0)]⟩ := by
  obtain ⟨hroute, honce⟩ := once_taken h rfl
  let log := [("once", Route.action 0), ("once", .action 0)]
  have hlog : ∀ entry ∈ log, (ofMethodSet set .i8).route entry.1 = .ok entry.2 := by
    simp [log, hroute]
  refine (Logged.told_eq (throughEach_narrated hlog count)).trans ?_
  congr 1
  · change (ofMethodSet set .i8).replayed count (["once"] ++ ["once"]) = count + 2
    rw [replayed_append, (honce _).1, (honce _).1]
  · simp [log, narration, honce, logEvents]

variable (hinner : innerSet.Binds [once])
  (h : set.Binds [once, twice (ofMethodSet innerSet .i8)])

include hinner h

theorem twice_taken (count : Nat) :
    (ofMethodSet set .i8).route "twice" = .ok (.action 1) ∧
      (ofMethodSet set .i8).replayed count ["twice"] = count + 2 ∧
      (ofMethodSet set .i8).spoken count "twice" =
        logEvents [("once", .action 0), ("once", .action 0)] := by
  have hmethod : (Method.actionsOf [once, twice (ofMethodSet innerSet .i8)])[1]? =
      some (twice (ofMethodSet innerSet .i8)) := by
    rw [actionsOf_counter]
    rfl
  obtain ⟨hroute, htwice⟩ := action_taken .i8 h hmethod rfl
  have htold := throughEach_once hinner count
  refine ⟨hroute, ?_, ?_⟩
  · exact (htwice count).1.trans (congrArg Told.value htold)
  · exact (htwice count).2.trans (congrArg Told.events htold)

theorem nestedLog_taken :
    (∀ entry ∈ nestedLog, (ofMethodSet set .i8).route entry.1 = .ok entry.2) ∧
      (ofMethodSet set .i8).replayed 0 (nestedLog.map Prod.fst) = 4 := by
  obtain ⟨honceRoute, honce⟩ := once_taken h (by rw [actionsOf_counter]; rfl)
  obtain ⟨htwiceRoute, htwice, -⟩ := twice_taken hinner h 0
  constructor
  · simp [nestedLog, honceRoute, htwiceRoute]
  · change (ofMethodSet set .i8).replayed 0 (["twice"] ++ (["once"] ++ ["once"])) = 4
    rw [replayed_append, htwice, replayed_append, (honce _).1, (honce _).1]

theorem dispatchAll_twice (journal : Journal) :
    ((ofMethodSet set .i8).dispatchAll 0 ["twice"]).run journal =
      ((.ok 1, 2), journal.recordAll (logEvents nestedLog)) := by
  obtain ⟨hroute, htwice, hspoken⟩ := twice_taken hinner h 0
  have hlog : ∀ entry ∈ [("twice", Route.action 1)],
      (ofMethodSet set .i8).route entry.1 = .ok entry.2 := List.forall_mem_singleton.mpr hroute
  have hkept : (ofMethodSet set .i8).KeptBy (fun _ => ofMethodSet set .i8) 0 := fun _ _ => rfl
  have hbatch := dispatchAllFrom_taken hkept (List.forall_mem_singleton.mpr ⟨_, hroute⟩) 0 journal
  have heach : (throughEach (fun _ => ofMethodSet set .i8) 0 ["twice"]).run journal = _ :=
    throughEach_narrated hlog 0 journal
  rw [heach] at hbatch
  refine hbatch.trans ?_
  simp [narration, htwice, hspoken, logEvents, nestedLog]

end Counter

-- A listener that wants no more than information does not hear of dispatch.
theorem filter_narration_of_info {table : Table StackMachine} {domain : Domain} {journal : Journal}
    (h : ((Handler.compileTable StackMachine domain).run journal).1 = .ok table)
    (machine : StackMachine) (log : List (String × Route)) :
    (table.narration machine log).filter (fun event => event.level.rank ≤ Level.info.rank) =
      [] := by
  rw [narration_of_silent methods_silent h, List.filter_eq_nil_iff]
  intro event hmem
  obtain ⟨entry, -, rfl⟩ := List.mem_map.mp hmem
  simp [dispatchEvent, Level.rank]

-- One call of the second method is told as three tokens, and a copy that is given all of them
-- counts to four. Nor is there a log for every listener: who wants no more than information hears
-- nothing of four words that are all taken.
theorem log_of_nested_dispatch :
    (∃ inner table : Table Nat,
      ((compile [once] .i8).run .nothing).1 = .ok inner ∧
      ((compile [once, twice inner] .i8).run .nothing).1 = .ok table ∧
      let batch := dispatchAllVia (fun _ => table) 0 ["twice"]
      (batch.run .nothing).1 = (.ok 1, 2) ∧ table.IsLog batch nestedLog ∧
      ¬∃ log, table.IsLog batch log ∧
        (batch.run .nothing).1.2 = table.replayed 0 (log.map Prod.fst)) ∧
    ∃ table, ((Handler.compileTable StackMachine .i32).run .nothing).1 = .ok table ∧
      let run := runLine table .empty "1 2 + ."
      let listener : Journal := ⟨fun event => event.level.rank ≤ Level.info.rank, []⟩
      (run.run listener).1.1 = .ok () ∧
      (run.told.events.filter Event.isDispatch).length = 4 ∧ (run.run listener).2.events = [] := by
  constructor
  · have honly : Method.Faultless [once] := by decide
    obtain ⟨inner, hinner⟩ := exists_of_faultless honly .i8 .nothing
    have hboth : Method.Faultless [once, twice inner] := faultless_counter
    obtain ⟨table, htable⟩ := exists_of_faultless hboth .i8 .nothing
    refine ⟨inner, table, hinner, htable, ?_⟩
    obtain ⟨innerSet, -, hinnerSet, -, rfl⟩ := exists_binds hinner
    obtain ⟨set, -, hset, -, rfl⟩ := exists_binds htable
    intro batch
    have hrun : ∀ journal, batch.run journal = _ := dispatchAll_twice hinnerSet hset
    obtain ⟨hroutes, hreplayed⟩ := nestedLog_taken hinnerSet hset
    have hevents : batch.told.events = logEvents nestedLog :=
      Logged.events_told fun journal => congrArg Prod.snd (hrun journal)
    refine ⟨congrArg Prod.fst (hrun .nothing), ⟨?_, hroutes, fun listener => ?_⟩, ?_⟩
    · rw [hevents]
      decide
    · rw [hevents, hrun, Journal.events_recordAll]
    rintro ⟨log, hlog, hsame⟩
    have htokens : log.map Prod.fst = nestedLog.map Prod.fst := by
      refine map_fst_of_logEvents (hlog.dispatching.symm.trans ?_)
      rw [hevents]
      decide
    rw [hrun, htokens, hreplayed] at hsame
    cases hsame
  · obtain ⟨table, hcompile⟩ := exists_of_faultless methods_faultless .i32 .nothing
    obtain ⟨set, -, hset, -, rfl⟩ := exists_binds hcompile
    refine ⟨_, hcompile, ?_⟩
    intro run listener
    have hempty : StackMachine.empty.fault = none := rfl
    obtain ⟨log, hlog, htold, hends⟩ := runLine_replayed (ofMethodSet set .i32) hempty "1 2 + ."
    have hcharged : Slate.Charged .i32 StackMachine.empty.slate _ _ _ :=
      runLine_charged hset hempty .i32 "1 2 + ." listener
    have hwords : Text.words "1 2 + ." = ["1", "2", "+", "."] := by decide
    have happly : (Text.words "1 2 + .").foldlM (Slate.apply .i32) StackMachine.empty.slate =
        .ok ⟨[], "3 "⟩ := by
      rw [hwords]
      rfl
    obtain ⟨hanswer, -⟩ := hcharged.unique (.nothing happly)
    have hlogged : log.map Prod.fst = ["1", "2", "+", "."] :=
      ((hends listener).logged_eq hanswer).trans hwords
    have hshallow := shallow_of_silent methods_silent hcompile
    have hisLog := hshallow.isLog htold (by simp [lineEvent, Event.isDispatch]) hlog
    refine ⟨hanswer, ?_, ?_⟩
    · rw [hisLog.dispatching, logEvents, List.length_map, ← log.length_map Prod.fst, hlogged]
      rfl
    · rw [htold, Journal.events_recordAll, List.filter_append]
      rw [filter_narration_of_info hcompile]
      rfl

end Table

end Switchboard
