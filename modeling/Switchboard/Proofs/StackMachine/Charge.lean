import Switchboard.Proofs.StackMachine.Line

namespace Switchboard

-- Why a word cannot be applied, if it cannot.
def Slate.failure (domain : Domain) (s : Slate) (word : String) : List StackFault :=
  match s.apply domain word with
  | .ok _ => []
  | .error fault => [fault]

-- What a line of words that starts at a slate may answer and leave. Either all of its words are
-- applied, or it is charged with the fault of the first that cannot be, and what that word found is
-- what is left.
inductive Slate.Charged (domain : Domain) (s : Slate) (words : List String) :
    Except StackFault Unit → Slate → Prop where
  | nothing {last : Slate} (hwords : words.foldlM (Slate.apply domain) s = .ok last) :
      Charged domain s words (.ok ()) last
  | first {before after : List String} {word : String} {last : Slate} {fault : StackFault}
      (hsplit : words = before ++ word :: after)
      (hbefore : before.foldlM (Slate.apply domain) s = .ok last)
      (hword : last.apply domain word = .error fault) :
      Charged domain s words (.error fault) last

namespace Slate.Charged

open StackMachine

variable {domain : Domain} {s next last other : Slate} {word : String} {words : List String}
  {fault : StackFault} {answer response : Except StackFault Unit}

theorem nil (h : Charged domain s [] answer last) : answer = .ok () ∧ last = s := by
  cases h with
  | nothing hwords => exact ⟨rfl, (Except.ok.inj hwords).symm⟩
  | first hsplit => simp at hsplit

theorem head (h : Charged domain s (word :: words) answer last)
    (happly : s.apply domain word = .error fault) : answer = .error fault ∧ last = s := by
  cases h with
  | nothing hwords =>
      rw [List.foldlM_cons, happly] at hwords
      cases hwords
  | @first before after bad last found hsplit hbefore hbad =>
      cases before with
      | nil =>
          obtain ⟨rfl, -⟩ := List.cons.inj hsplit
          obtain rfl : s = last := Except.ok.inj hbefore
          rw [happly] at hbad
          cases hbad
          exact ⟨rfl, rfl⟩
      | cons first before =>
          obtain ⟨rfl, -⟩ := List.cons.inj hsplit
          rw [List.foldlM_cons, happly] at hbefore
          cases hbefore

theorem tail (h : Charged domain s (word :: words) answer last)
    (happly : s.apply domain word = .ok next) : Charged domain next words answer last := by
  cases h with
  | nothing hwords => exact .nothing ((foldlM_apply_cons happly words).symm.trans hwords)
  | @first before after bad last found hsplit hbefore hbad =>
      cases before with
      | nil =>
          obtain ⟨rfl, -⟩ := List.cons.inj hsplit
          obtain rfl : s = last := Except.ok.inj hbefore
          rw [happly] at hbad
          cases hbad
      | cons first before =>
          obtain ⟨rfl, rfl⟩ := List.cons.inj hsplit
          exact .first rfl ((foldlM_apply_cons happly before).symm.trans hbefore) hbad

-- There is one answer that a line may give, and one slate that it may leave.
theorem unique (h : Charged domain s words answer last)
    (hother : Charged domain s words response other) : answer = response ∧ last = other := by
  induction words generalizing s with
  | nil => exact ⟨h.nil.1.trans hother.nil.1.symm, h.nil.2.trans hother.nil.2.symm⟩
  | cons word words ih =>
      cases happly : s.apply domain word with
      | error fault =>
          exact ⟨(h.head happly).1.trans (hother.head happly).1.symm,
            (h.head happly).2.trans (hother.head happly).2.symm⟩
      | ok next => exact ih (h.tail happly) (hother.tail happly)

end Slate.Charged

namespace StackMachine

variable {machine : StackMachine} {domain : Domain} {word : String} {stale fault : StackFault}
  {s : Slate}

def settled (machine : StackMachine) : StackMachine := { machine with fault := none }

-- What `Answers` says, whatever fault is there before. Only a fault of its own changes it.
def Follows (machine next : StackMachine) : Except StackFault Slate → Prop
  | .ok s => next.fault = machine.fault ∧ next.slate = s
  | .error fault => next = { machine with fault := some fault }

theorem binary_settled (word : String) (cell : Int64 → Int64 → Option Int64)
    (machine : StackMachine) :
    let next := binary word cell machine.settled
    binary word cell machine = { next with fault := next.fault.or machine.fault } := by
  obtain ⟨stack, output, fault⟩ := machine
  match stack with
  | right :: left :: rest =>
      simp only [binary, settled]
      cases cell left right <;> rfl
  | [single] => rfl
  | [] => rfl

-- A word does not look at a fault that is already there. Its own fault takes the place of it.
theorem perform_settled (machine : StackMachine) (word : String) :
    let next := machine.settled.perform word
    machine.perform word = { next with fault := next.fault.or machine.fault } := by
  obtain ⟨stack, output, fault⟩ := machine
  unfold perform
  split
  · exact binary_settled _ _ _
  · exact binary_settled _ _ _
  · exact binary_settled _ _ _
  · exact binary_settled _ _ _
  · exact binary_settled _ _ _
  · cases stack <;> rfl
  · cases stack <;> rfl
  · cases stack <;> rfl
  · rfl
  · match stack with
    | top :: next :: rest => rfl
    | [single] => rfl
    | [] => rfl
  · rfl

theorem follows_perform (machine : StackMachine) (hword : word ∈ Slate.vocabulary) :
    machine.Follows (machine.perform word) (machine.slate.apply domain word) := by
  have hanswers : machine.settled.Answers (machine.settled.perform word)
      (machine.slate.apply domain word) := answers_perform rfl hword
  rw [perform_settled]
  cases happly : machine.slate.apply domain word with
  | ok s =>
      rw [happly] at hanswers
      obtain ⟨hfault, hslate⟩ := hanswers
      exact ⟨by simp only [hfault, Option.none_or], hslate⟩
  | error fault =>
      rw [happly] at hanswers
      have hnext : machine.settled.perform word = { machine.settled with fault := some fault } :=
        hanswers
      rw [hnext]
      rfl

theorem runLine_outcome (table : Table StackMachine) (machine : StackMachine) (line : String)
    (journal : Journal) : ∃ start,
    ((runLine table machine line).run journal).1 =
      ((runWords table machine (Text.words line)).run start).1 := ⟨_, rfl⟩

section Dispatch

variable {set : MethodSet StackMachine} (hset : set.Binds (Handler.methods (H := StackMachine)))
  (journal : Journal)

include hset

-- What `dispatch_cases` says, whatever fault is there before.
theorem dispatch_follows (machine : StackMachine) (domain : Domain) (word : String) :
    let answer := (((Table.ofMethodSet set domain).dispatch machine word).run journal).1
    (∃ route next, answer = (.ok route, next) ∧
      machine.Follows next (machine.slate.apply domain word)) ∨
    ∃ cause, answer = (.error cause, machine) ∧
      machine.slate.apply domain word = .error (.unroutable cause) := by
  intro answer
  by_cases hword : word ∈ Slate.vocabulary
  · obtain ⟨slot, hdispatch⟩ :=
      Table.dispatch_perform domain hset machine journal actions_perform hword
    exact .inl ⟨_, _, hdispatch, follows_perform machine hword⟩
  · have hdispatch := dispatch_number machine domain hset journal hword
    rw [Slate.apply_number hword]
    cases hvalue : domain.parse word with
    | some value =>
        rw [hvalue] at hdispatch
        exact .inl ⟨_, _, hdispatch, rfl, rfl⟩
    | none =>
        rw [hvalue] at hdispatch
        exact .inr ⟨_, hdispatch, rfl⟩

theorem runWords_charged (hclean : machine.fault = none) (domain : Domain) (words : List String) :
    let answer := ((runWords (.ofMethodSet set domain) machine words).run journal).1
    answer.2.fault = none ∧ Slate.Charged domain machine.slate words answer.1 answer.2.slate := by
  obtain ⟨last, hwords⟩ | ⟨before, word, after, last, fault, rfl, hbefore, hword⟩ :=
    exists_first_failure words machine.slate
  · obtain ⟨next, hnext, rfl, hrun⟩ := runWords_ok hset journal hclean hwords
    rw [hrun]
    exact ⟨hnext, .nothing hwords⟩
  · obtain ⟨next, hnext, rfl, hrun⟩ := runWords_error hset journal hclean hbefore hword
    rw [hrun]
    exact ⟨hnext, .first rfl hbefore hword⟩

-- The first word is carried out, and then the line ends all the same.
theorem runWords_stale (hstale : machine.fault = some stale)
    (happly : machine.slate.apply domain word = .ok s) (rest : List String) :
    ∃ next : StackMachine, next.fault = none ∧ next.slate = s ∧
      ((runWords (.ofMethodSet set domain) machine (word :: rest)).run journal).1 =
        (.error stale, next) := by
  obtain ⟨route, next, hdispatch, hfollows⟩ | ⟨cause, -, hcause⟩ :=
    dispatch_follows hset journal machine domain word
  · rw [happly] at hfollows
    obtain ⟨hfault, hslate⟩ := hfollows
    refine ⟨next.settled, rfl, hslate, ?_⟩
    simp only [runWords, Logged.bind_outcome, hdispatch, hfault, hstale]
    rfl
  · rw [happly] at hcause
    cases hcause

-- A word that fails by itself is reported as if nothing else had been wrong. The old fault is gone,
-- unless nothing takes the word.
theorem runWords_own (happly : machine.slate.apply domain word = .error fault)
    (rest : List String) :
    ∃ next : StackMachine, (next = machine.settled ∨ next = machine) ∧
      ((runWords (.ofMethodSet set domain) machine (word :: rest)).run journal).1 =
        (.error fault, next) := by
  obtain ⟨route, next, hdispatch, hfollows⟩ | ⟨cause, hdispatch, hcause⟩ :=
    dispatch_follows hset journal machine domain word
  · rw [happly] at hfollows
    obtain rfl : next = { machine with fault := some fault } := hfollows
    refine ⟨machine.settled, .inl rfl, ?_⟩
    simp only [runWords, Logged.bind_outcome, hdispatch]
    rfl
  · rw [happly] at hcause
    cases hcause
    refine ⟨machine, .inr rfl, ?_⟩
    simp only [runWords, Logged.bind_outcome, hdispatch]
    rfl

-- A line leaves no fault behind that was not there before.
theorem fault_runWords (machine : StackMachine) (domain : Domain) (words : List String) :
    let answer := ((runWords (.ofMethodSet set domain) machine words).run journal).1
    answer.2.fault = none ∨ answer.2.fault = machine.fault := by
  intro answer
  cases hfault : machine.fault with
  | none => exact .inl (runWords_charged hset journal hfault domain words).1
  | some stale =>
      cases words with
      | nil => exact .inr hfault
      | cons word rest =>
          cases happly : machine.slate.apply domain word with
          | ok s =>
              obtain ⟨next, hnext, -, hrun⟩ := runWords_stale hset journal hfault happly rest
              exact .inl ((congrArg (·.2.fault) hrun).trans hnext)
          | error own =>
              obtain ⟨next, hnext, hrun⟩ := runWords_own hset journal happly rest
              obtain rfl | rfl := hnext
              · exact .inl (congrArg (·.2.fault) hrun)
              · exact .inr ((congrArg (·.2.fault) hrun).trans hfault)

end Dispatch

-- A machine after any calls from outside, with the faults of the words that were dispatched by
-- hand, in their order. A word that nothing takes is answered at once, and leaves no fault.
inductive Conversed (table : Table StackMachine) : List StackFault → StackMachine → Prop where
  | made : Conversed table [] empty
  | told {raised : List StackFault} {machine : StackMachine} (h : Conversed table raised machine)
      (line : String) (journal : Journal) :
      Conversed table raised ((runLine table machine line).run journal).1.2
  | drained {raised : List StackFault} {machine : StackMachine}
      (h : Conversed table raised machine) : Conversed table raised machine.takeOutput.2
  | taken {raised : List StackFault} {machine next : StackMachine} {word : String}
      {journal : Journal} {route : Route} (h : Conversed table raised machine)
      (hdispatch : ((table.dispatch machine word).run journal).1 = (.ok route, next)) :
      Conversed table (raised ++ machine.slate.failure table.domain word) next
  | refused {raised : List StackFault} {machine next : StackMachine} {word : String}
      {journal : Journal} {cause : DispatchError} (h : Conversed table raised machine)
      (hdispatch : ((table.dispatch machine word).run journal).1 = (.error cause, next)) :
      Conversed table raised next

namespace Conversed

variable {machine : StackMachine} {domain : Domain} {table : Table StackMachine}
  {raised : List StackFault}

-- Many words at once are dispatched one by one, up to the first that nothing takes.
theorem dispatchAllFrom (h : Conversed table raised machine) (count : Nat) (tokens : List String)
    (journal : Journal) : ∃ more, Conversed table (raised ++ more)
      ((table.dispatchAllFrom count machine tokens).run journal).1.2 := by
  induction tokens generalizing raised machine count journal with
  | nil => exact ⟨[], (List.append_nil raised).symm ▸ h⟩
  | cons token rest ih =>
      simp only [Table.dispatchAllFrom, Logged.bind_outcome]
      generalize hdispatch : (table.dispatch machine token).run journal = told
      obtain ⟨⟨cause | route, next⟩, listener⟩ := told
      · exact ⟨[], (List.append_nil raised).symm ▸ h.refused (congrArg Prod.fst hdispatch)⟩
      · obtain ⟨more, hrest⟩ := ih (h.taken (congrArg Prod.fst hdispatch)) (count + 1) listener
        rw [List.append_assoc] at hrest
        exact ⟨_, hrest⟩

-- A line adds no fault to those that are there, so one that is pending comes from a word that was
-- dispatched by hand.
theorem mem_raised {set : MethodSet StackMachine}
    (hset : set.Binds (Handler.methods (H := StackMachine)))
    (h : Conversed (.ofMethodSet set domain) raised machine) {stale : StackFault}
    (hstale : machine.fault = some stale) : stale ∈ raised := by
  induction h with
  | made => cases hstale
  | @told raised machine h line journal ih =>
      obtain ⟨start, hline⟩ := runLine_outcome (.ofMethodSet set domain) machine line journal
      rw [hline] at hstale
      obtain hnone | hsame := fault_runWords hset start machine domain (Text.words line)
      · cases hnone.symm.trans hstale
      · exact ih (hsame.symm.trans hstale)
  | drained h ih => exact ih hstale
  | @taken raised machine next word journal route h hdispatch ih =>
      obtain ⟨_, _, hanswer, hfollows⟩ | ⟨cause, hanswer, -⟩ :=
        dispatch_follows hset journal machine domain word
      · cases hanswer.symm.trans hdispatch
        change stale ∈ raised ++ machine.slate.failure domain word
        rw [List.mem_append, Slate.failure]
        cases happly : machine.slate.apply domain word with
        | ok s =>
            rw [happly] at hfollows
            exact .inl (ih (hfollows.1.symm.trans hstale))
        | error fault =>
            rw [happly] at hfollows
            obtain rfl : next = { machine with fault := some fault } := hfollows
            cases hstale
            exact .inr (List.mem_singleton.mpr rfl)
      · cases hanswer.symm.trans hdispatch
  | @refused raised machine next word journal cause h hdispatch ih =>
      obtain ⟨_, _, hanswer, -⟩ | ⟨_, hanswer, -⟩ :=
        dispatch_follows hset journal machine domain word
      · cases hanswer.symm.trans hdispatch
      · cases hanswer.symm.trans hdispatch
        exact ih hstale

end Conversed

-- A line is charged with its own faults when no fault is pending. Only words that were dispatched by
-- hand, one by one or many at once, leave one. It stays pending over a line without words, gives way
-- to the fault of a first word that cannot be applied, and else ends the line after its first word,
-- which is applied.
theorem runLine_charges_words (domain : Domain) (journal : Journal) :
    ∃ table, ((Handler.compileTable StackMachine domain).run journal).1 = .ok table ∧
    (∀ raised machine, Conversed table raised machine →
      (∀ stale, machine.fault = some stale → stale ∈ raised) ∧
      ∀ tokens listener, ∃ more, Conversed table (raised ++ more)
        ((table.dispatchAll machine tokens).run listener).1.2) ∧
    ∀ machine line listener,
      let words := Text.words line
      let answer := ((runLine table machine line).run listener).1
      (machine.fault = none →
        answer.2.fault = none ∧
        Slate.Charged domain machine.slate words answer.1 answer.2.slate) ∧
      ∀ stale, machine.fault = some stale →
        (words = [] → answer = (.ok (), machine)) ∧
        ∀ word rest, words = word :: rest →
          (∀ own, machine.slate.apply domain word = .error own →
            answer.1 = .error own ∧ answer.2.slate = machine.slate) ∧
          ∀ s, machine.slate.apply domain word = .ok s →
            answer.1 = .error stale ∧ answer.2.fault = none ∧ answer.2.slate = s := by
  obtain ⟨table, hcompile⟩ := Table.exists_of_faultless methods_faultless domain journal
  obtain ⟨set, -, hset, -, rfl⟩ := Table.exists_binds hcompile
  refine ⟨_, hcompile,
    fun raised machine h => ⟨fun stale => h.mem_raised hset, h.dispatchAllFrom 0⟩, ?_⟩
  intro machine line listener words answer
  obtain ⟨start, hanswer⟩ : ∃ start, answer =
      ((runWords (.ofMethodSet set domain) machine words).run start).1 :=
    runLine_outcome _ machine line listener
  rw [hanswer]
  refine ⟨fun hclean => runWords_charged hset start hclean domain words, fun stale hstale => ?_⟩
  refine ⟨fun hwords => ?_, fun word rest hwords => ⟨fun own hown => ?_, fun s hs => ?_⟩⟩
  · rw [hwords]
    rfl
  · obtain ⟨next, hnext, hrun⟩ := runWords_own hset start hown rest
    rw [hwords, hrun]
    obtain rfl | rfl := hnext
    · exact ⟨rfl, rfl⟩
    · exact ⟨rfl, rfl⟩
  · obtain ⟨next, hnext, hslate, hrun⟩ := runWords_stale hset start hstale hs rest
    rw [hwords, hrun]
    exact ⟨rfl, hnext, hslate⟩

-- The first line starts from what an earlier line left and fails at its third word. The second one
-- has nothing wrong with it, and answers for a sum that was tried by hand.
theorem runLine_charges_words_own :
    ∃ table, ((Handler.compileTable StackMachine .i64).run .nothing).1 = .ok table ∧
      (∃ machine, Conversed table [] machine ∧ machine.slate = ⟨[4, 3], ""⟩ ∧
        let answer := ((runLine table machine "+ . + 9").run .nothing).1
        answer.1 = .error (.stackUnderflow "+" 2 0) ∧ answer.2.slate = ⟨[], "7 "⟩) ∧
      ∃ machine, Conversed table [.stackUnderflow "+" 2 0] machine ∧
        let answer := ((runLine table machine "1 2").run .nothing).1
        answer.1 = .error (.stackUnderflow "+" 2 0) ∧ answer.2.slate = ⟨[1], ""⟩ := by
  obtain ⟨table, hcompile, hraised, hcharges⟩ := runLine_charges_words .i64 .nothing
  obtain ⟨set, -, hset, -, rfl⟩ := Table.exists_binds hcompile
  obtain ⟨slot, htried⟩ :=
    Table.dispatch_perform .i64 hset empty .nothing actions_perform
      (show "+" ∈ Slate.vocabulary by decide)
  have htold : Conversed (.ofMethodSet set .i64) []
      ((runLine (.ofMethodSet set .i64) empty "3 4").run .nothing).1.2 := .told .made _ _
  generalize hmachine : ((runLine (.ofMethodSet set .i64) empty "3 4").run .nothing).1.2 = machine
    at htold
  have hslate : machine.slate = ⟨[4, 3], ""⟩ := by
    have hline := ((hcharges empty "3 4" .nothing).1 rfl).2
    rw [show Text.words "3 4" = ["3", "4"] by decide, hmachine] at hline
    exact (hline.unique (.nothing rfl)).2
  have hclean : machine.fault = none :=
    Option.eq_none_iff_forall_ne_some.mpr fun stale hstale =>
      List.not_mem_nil ((hraised [] machine htold).1 stale hstale)
  have hline := ((hcharges machine "+ . + 9" .nothing).1 hclean).2
  rw [hslate] at hline
  have hsplit : Text.words "+ . + 9" = ["+", "."] ++ "+" :: ["9"] := by decide
  have hbefore : ["+", "."].foldlM (Slate.apply .i64) ⟨[4, 3], ""⟩ = .ok ⟨[], "7 "⟩ := rfl
  have hpending := ((hcharges empty.plus "1 2" .nothing).2 _ rfl).2 "1" ["2"] (by decide)
  obtain ⟨hstale, -, hleft⟩ := hpending.2 ⟨[1], ""⟩ rfl
  exact ⟨_, hcompile, ⟨machine, htold, hslate, hline.unique (.first hsplit hbefore rfl)⟩,
    empty.plus, Conversed.made.taken htried, hstale, hleft⟩

-- A sum is tried by hand on the empty stack. The line is one number, which is pushed and which
-- nothing is wrong with.
theorem runLine_charges_words_stale :
    ∃ table, ((Handler.compileTable StackMachine .i64).run .nothing).1 = .ok table ∧
      let tried := ((table.dispatch empty "+").run .nothing).1
      let answer := ((runLine table tried.2 "1").run .nothing).1
      (∃ route, tried.1 = .ok route) ∧ tried.2.slate = empty.slate ∧
        answer.1 = .error (.stackUnderflow "+" 2 0) ∧ answer.2.slate = ⟨[1], ""⟩ ∧
        ¬Slate.Charged .i64 tried.2.slate (Text.words "1") answer.1 answer.2.slate := by
  obtain ⟨table, hcompile⟩ := Table.exists_of_faultless methods_faultless .i64 .nothing
  obtain ⟨set, -, hset, -, rfl⟩ := Table.exists_binds hcompile
  refine ⟨_, hcompile, ?_⟩
  intro tried answer
  obtain ⟨slot, htried⟩ : ∃ slot, tried = (.ok (.action slot), empty.plus) :=
    Table.dispatch_perform .i64 hset empty .nothing actions_perform (by decide)
  have hwords : Text.words "1" = ["1"] := by decide
  have happly : empty.plus.slate.apply .i64 "1" = .ok ⟨[1], ""⟩ := rfl
  obtain ⟨start, hline⟩ := runLine_outcome (.ofMethodSet set .i64) tried.2 "1" .nothing
  obtain ⟨next, -, hslate, hrun⟩ := runWords_stale hset start rfl happly []
  have hanswer : answer = (.error (.stackUnderflow "+" 2 0), next) := by
    refine hline.trans ?_
    rw [hwords, htried]
    exact hrun
  rw [hanswer, hwords, htried]
  refine ⟨⟨_, rfl⟩, rfl, rfl, hslate, fun hcharged => ?_⟩
  have hother : Slate.Charged .i64 empty.plus.slate ["1"] (.ok ()) ⟨[1], ""⟩ := .nothing rfl
  cases (hcharged.unique hother).1

end StackMachine

end Switchboard
