import Switchboard.Proofs.TapeMachine.History

namespace Switchboard

namespace Tape

theorem current_write (tape : Tape) (value : UInt8) : (tape.write value).current = value := by
  have hget := (tape.write value).getElem?_bytes_head
  rw [bytes_write, head_write, List.getElem?_set_self tape.head_lt_length] at hget
  exact (Option.some.inj hget).symm

end Tape

namespace TapeMachine

-- A character that is carried out, with the machine that it finds.
abbrev Instruction := TapeMachine × Char

-- The byte that is stored, if a byte is asked for and there is one in the queue. It is what the
-- cell holds afterwards.
def stored? : Instruction → Option UInt8
  | (machine, ',') => if machine.input = [] then none else some machine.read.tape.current
  | _ => none

-- What a run carries out, in its order. A character that ends the run with a fault is the last.
def carried : (fuel : Nat) → TapeMachine → List Instruction
  | 0, _ => []
  | fuel + 1, machine =>
      match machine.code[machine.cursor]? with
      | none => []
      | some c =>
          (machine, c) :: match (machine.operate c).fault with
            | some _ => []
            | none =>
                carried fuel { machine.operate c with cursor := (machine.operate c).cursor + 1 }

theorem getElem?_carried {fuel count : Nat} {machine found : TapeMachine} {c : Char} :
    (carried fuel machine)[count]? = some (found, c) ↔
      count < fuel ∧ machine.walk count = (none, found) ∧ found.code[found.cursor]? = some c := by
  induction fuel generalizing machine count with
  | zero => simp [carried]
  | succ fuel ih =>
      unfold carried
      cases hchar : machine.code[machine.cursor]? with
      | none =>
          cases count with
          | zero =>
              have hnone : ¬(machine = found ∧ found.code[found.cursor]? = some c) := by
                rintro ⟨rfl, hsome⟩
                simp [hchar] at hsome
              simpa [walk] using hnone
          | succ count => simp [walk, hchar]
      | some other =>
          cases count with
          | zero =>
              simp only [List.getElem?_cons_zero, Option.some.injEq, Prod.mk.injEq, walk,
                Nat.zero_lt_succ, true_and]
              constructor
              · rintro ⟨rfl, rfl⟩
                exact ⟨rfl, hchar⟩
              · rintro ⟨rfl, hsome⟩
                exact ⟨rfl, Option.some.inj (hchar.symm.trans hsome)⟩
          | succ count =>
              simp only [List.getElem?_cons_succ, walk, hchar]
              cases (machine.operate other).fault with
              | some fault => simp
              | none => simp [ih]

-- No character but the one for reading takes anything from the queue.
theorem input_operate (machine : TapeMachine) {c : Char} (h : c ≠ ',') :
    (machine.operate c).input = machine.input := by
  unfold operate
  split
  · exact machine.sameQueues_moveRight.input_eq
  · exact machine.sameQueues_moveLeft.input_eq
  · rfl
  · rfl
  · rfl
  · exact absurd rfl h
  · exact machine.sameQueues_enterLoop.input_eq
  · exact machine.sameQueues_repeatLoop.input_eq
  · rfl

-- A byte that leaves the queue is in its cell afterwards, so both together are what the queue was.
theorem stored_operate (machine : TapeMachine) (c : Char) :
    (stored? (machine, c)).toList ++ (machine.operate c).input = machine.input := by
  by_cases hread : c = ','
  · subst hread
    simp only [stored?, operate, read]
    cases hinput : machine.input with
    | nil => simp [hinput]
    | cons byte rest => simp [Tape.current_write]
  · have hnone : stored? (machine, c) = none := by simp [stored?, hread]
    rw [hnone, machine.input_operate hread]
    rfl

theorem filterMap_stored_cons (instruction : Instruction) (more : List Instruction) :
    (instruction :: more).filterMap stored? =
      (stored? instruction).toList ++ more.filterMap stored? := by
  rw [List.filterMap_cons]
  cases stored? instruction <;> rfl

theorem stored_carried (fuel : Nat) (machine : TapeMachine) :
    (carried fuel machine).filterMap stored? ++ (machine.walk fuel).2.input = machine.input := by
  induction fuel generalizing machine with
  | zero => rfl
  | succ fuel ih =>
      unfold carried walk
      cases machine.code[machine.cursor]? with
      | none => rfl
      | some c =>
          have hstep := stored_operate machine c
          simp only [filterMap_stored_cons, List.append_assoc]
          cases (machine.operate c).fault with
          | some fault => exact hstep
          | none => rwa [ih]

-- What a run from a clean start carries out. A program that is refused is not begun.
def carriedBy (fuel : Nat) (machine : TapeMachine) (code : String) : List Instruction :=
  match Bracket.unmatched? code.toList with
  | some _ => []
  | none => carried fuel (machine.loaded code)

theorem stored_carriedBy (fuel : Nat) (machine : TapeMachine) (code : String) (journal : Journal) :
    (machine.carriedBy fuel code).filterMap stored? ++
      ((run fuel machine code).run journal).1.2.input = machine.input := by
  unfold carriedBy
  cases hcode : Bracket.unmatched? code.toList with
  | some found =>
      obtain ⟨bracket, position⟩ := found
      rw [run_refused fuel machine journal hcode]
      rfl
  | none =>
      have hcarried := stored_carried fuel (machine.loaded code)
      rw [run_outcome fuel machine journal hcode]
      generalize (machine.loaded code).walk fuel = walked at hcarried
      rcases walked with ⟨_ | ⟨fault | _⟩, final⟩
      · exact hcarried
      · exact hcarried
      · exact hcarried

-- What a token carries out. One of more than a character is no operator.
def carriedFor (machine : TapeMachine) (token : String) : List Instruction :=
  match token.toList with
  | [c] => [(machine, c)]
  | _ => []

theorem stored_carriedFor (machine : TapeMachine) (token : String) :
    (machine.carriedFor token).filterMap stored? ++ (machine.obey token).input =
      machine.input := by
  unfold carriedFor obey
  rcases token.toList with _ | ⟨c, _ | ⟨next, rest⟩⟩
  · rfl
  · simp only [filterMap_stored_cons, List.filterMap_nil, List.append_nil]
    exact stored_operate machine c
  · rfl

def carriedForAll : TapeMachine → List String → List Instruction
  | _, [] => []
  | machine, token :: rest => machine.carriedFor token ++ carriedForAll (machine.obey token) rest

theorem stored_carriedForAll {board : Table TapeMachine} (hboard : Drives board)
    (machine : TapeMachine) (tokens : List String) (count : Nat) (journal : Journal) :
    (machine.carriedForAll tokens).filterMap stored? ++
      ((board.dispatchAllFrom count machine tokens).run journal).1.2.input = machine.input := by
  induction tokens generalizing machine count journal with
  | nil => rfl
  | cons token rest ih =>
      obtain ⟨route, hroute⟩ := hboard.dispatch_token machine journal token
      simp only [Table.dispatchAllFrom, Logged.bind_outcome, hroute, carriedForAll,
        List.filterMap_append, List.append_assoc]
      rw [ih]
      exact stored_carriedFor machine token

-- A machine that a caller can come by, with what has been carried out since it was made and the
-- bytes that were queued, both in their order.
inductive Recorded (length : Nat) : List Instruction → List UInt8 → TapeMachine → Prop where
  | made {machine : TapeMachine} (h : ofLength length = .ok machine) :
      Recorded length [] [] machine
  | fed {done : List Instruction} {queued : List UInt8} {machine : TapeMachine}
      (h : Recorded length done queued machine) (bytes : List UInt8) :
      Recorded length done (queued ++ bytes) (machine.pushInput bytes)
  | loaded {done : List Instruction} {queued : List UInt8} {machine : TapeMachine}
      (h : Recorded length done queued machine) (code : String) :
      Recorded length done queued (machine.setCode code).2
  | executed {done : List Instruction} {queued : List UInt8} {machine : TapeMachine}
      (h : Recorded length done queued machine) (fuel : Nat) (journal : Journal) :
      Recorded length (done ++ machine.carried fuel) queued
        ((execute fuel machine).run journal).1.2
  | ran {done : List Instruction} {queued : List UInt8} {machine : TapeMachine}
      (h : Recorded length done queued machine) (fuel : Nat) (code : String) (journal : Journal) :
      Recorded length (done ++ machine.carriedBy fuel code) queued
        ((run fuel machine code).run journal).1.2
  | cleared {done : List Instruction} {queued : List UInt8} {machine : TapeMachine}
      (h : Recorded length done queued machine) : Recorded length done queued machine.clear
  | drained {done : List Instruction} {queued : List UInt8} {machine : TapeMachine}
      (h : Recorded length done queued machine) : Recorded length done queued machine.takeOutput.2
  | dispatched {done : List Instruction} {queued : List UInt8} {machine : TapeMachine}
      (h : Recorded length done queued machine) {board : Table TapeMachine} (hboard : Drives board)
      (token : String) (journal : Journal) :
      Recorded length (done ++ machine.carriedFor token) queued
        ((board.dispatch machine token).run journal).1.2
  | dispatchedAll {done : List Instruction} {queued : List UInt8} {machine : TapeMachine}
      (h : Recorded length done queued machine) {board : Table TapeMachine} (hboard : Drives board)
      (tokens : List String) (journal : Journal) :
      Recorded length (done ++ machine.carriedForAll tokens) queued
        ((board.dispatchAll machine tokens).run journal).1.2

variable {length : Nat} {machine : TapeMachine}

-- There is a record of whatever is asked of a machine.
theorem Reachable.exists_recorded (h : Reachable length machine) :
    ∃ done queued, Recorded length done queued machine := by
  induction h with
  | made h => exact ⟨_, _, .made h⟩
  | loaded _ code ih =>
      obtain ⟨done, queued, hrecorded⟩ := ih
      exact ⟨_, _, hrecorded.loaded code⟩
  | executed _ fuel journal ih =>
      obtain ⟨done, queued, hrecorded⟩ := ih
      exact ⟨_, _, hrecorded.executed fuel journal⟩
  | ran _ fuel code journal ih =>
      obtain ⟨done, queued, hrecorded⟩ := ih
      exact ⟨_, _, hrecorded.ran fuel code journal⟩
  | cleared _ ih =>
      obtain ⟨done, queued, hrecorded⟩ := ih
      exact ⟨_, _, hrecorded.cleared⟩
  | fed _ bytes ih =>
      obtain ⟨done, queued, hrecorded⟩ := ih
      exact ⟨_, _, hrecorded.fed bytes⟩
  | drained _ ih =>
      obtain ⟨done, queued, hrecorded⟩ := ih
      exact ⟨_, _, hrecorded.drained⟩
  | dispatched _ hboard token journal ih =>
      obtain ⟨done, queued, hrecorded⟩ := ih
      exact ⟨_, _, hrecorded.dispatched hboard token journal⟩
  | dispatchedAll _ hboard tokens journal ih =>
      obtain ⟨done, queued, hrecorded⟩ := ih
      exact ⟨_, _, hrecorded.dispatchedAll hboard tokens journal⟩

theorem Recorded.queue_eq {done : List Instruction} {queued : List UInt8}
    (h : Recorded length done queued machine) :
    done.filterMap stored? ++ machine.input = queued := by
  -- What a call carries out is stored in front of what it leaves in the queue.
  have hcall : ∀ {earlier more : List Instruction} {before after all : List UInt8},
      more.filterMap stored? ++ after = before → earlier.filterMap stored? ++ before = all →
      (earlier ++ more).filterMap stored? ++ after = all := by
    intro earlier more before after all hmore hall
    rw [List.filterMap_append, List.append_assoc, hmore, hall]
  induction h with
  | made hmade =>
      unfold ofLength at hmade
      split_ifs at hmade with hlimit
      obtain rfl := Except.ok.inj hmade
      rfl
  | @fed done queued machine _ bytes ih =>
      rw [← ih, List.append_assoc]
      rfl
  | @loaded done queued machine _ code ih =>
      unfold setCode
      split
      · exact ih
      · exact ih
  | executed _ fuel journal ih =>
      rw [execute_outcome]
      exact hcall (stored_carried fuel _) ih
  | ran _ fuel code journal ih => exact hcall (stored_carriedBy fuel _ code journal) ih
  | cleared _ ih => exact ih
  | drained _ ih => exact ih
  | @dispatched done queued machine _ board hboard token journal ih =>
      obtain ⟨route, hroute⟩ := hboard.dispatch_token machine journal token
      rw [hroute]
      exact hcall (stored_carriedFor machine token) ih
  | dispatchedAll _ hboard tokens journal ih =>
      exact hcall (stored_carriedForAll hboard _ tokens 0 journal) ih

theorem Drives.dispatch_read {board : Table TapeMachine} (hboard : Drives board)
    (machine : TapeMachine) (journal : Journal) :
    ∃ route, ((board.dispatch machine ",").run journal).1 = (.ok route, machine.read) := by
  have hread : machine.obey "," = machine.read := machine.obey_singleton ','
  rw [← hread]
  exact hboard.dispatch_token machine journal ","

-- Whatever is asked of a machine, there is a record of it, and the bytes that were stored and those
-- that are still in the queue are the bytes that were ever queued, in their order, each of them
-- once. A byte that is asked for when none is left changes nothing. The record of a run holds what
-- the run stands at when it has less fuel.
theorem input_kept_in_order (h : Reachable length machine) :
    (∃ done queued, Recorded length done queued machine) ∧
    (∀ done queued, Recorded length done queued machine →
      done.filterMap stored? ++ machine.input = queued) ∧
    (∀ board, Drives board → machine.input = [] → ∀ journal, ∃ route,
      ((board.dispatch machine ",").run journal).1 = (.ok route, machine)) ∧
    ∀ fuel count found c, (machine.carried fuel)[count]? = some (found, c) ↔
      count < fuel ∧ machine.walk count = (none, found) ∧
        found.code[found.cursor]? = some c := by
  refine ⟨h.exists_recorded, fun done queued hrecorded => hrecorded.queue_eq, ?_,
    fun fuel count found c => getElem?_carried⟩
  intro board hboard hinput journal
  obtain ⟨route, hroute⟩ := hboard.dispatch_read machine journal
  refine ⟨route, ?_⟩
  rw [hroute, read, hinput]

-- A run reads two of three bytes before it leaves the tape. The third one is read by hand, and then
-- there is none.
theorem input_kept_in_order_stopped :
    ∃ stopped machine done more, Reachable 2 stopped ∧ Reachable 2 machine ∧
      Recorded 2 done [7, 8, 9] stopped ∧ stopped.input = [9] ∧ done.filterMap stored? = [7, 8] ∧
      Recorded 2 (done ++ more) [7, 8, 9] machine ∧
      (done ++ more).filterMap stored? = [7, 8, 9] ∧
      ∃ route, ((table.dispatch machine ",").run .nothing).1 = (.ok route, machine) := by
  have hmade : Reachable 2 ⟨.blank 2, #[], 0, [], #[], none⟩ := .made rfl
  have hstart : Recorded 2 [] [] ⟨.blank 2, #[], 0, [], #[], none⟩ := .made rfl
  obtain ⟨stopped, done, hstopped, hdone, hinput⟩ : ∃ stopped done, Reachable 2 stopped ∧
      Recorded 2 done [7, 8, 9] stopped ∧ stopped.input = [9] := by
    refine ⟨_, _, (hmade.fed [7, 8, 9]).ran 9 ",>,>," .nothing,
      (hstart.fed [7, 8, 9]).ran 9 ",>,>," .nothing, ?_⟩
    rw [run_outcome 9 _ .nothing (by decide)]
    decide +kernel
  obtain ⟨machine, more, hmachine, hmore, hempty⟩ : ∃ machine more, Reachable 2 machine ∧
      Recorded 2 (done ++ more) [7, 8, 9] machine ∧ machine.input = [] := by
    refine ⟨_, _, hstopped.dispatched table_drives "," .nothing,
      hdone.dispatched table_drives "," .nothing, ?_⟩
    obtain ⟨route, hroute⟩ := table_drives.dispatch_read stopped .nothing
    rw [hroute, read, hinput]
  obtain ⟨-, hkept, -⟩ := input_kept_in_order hstopped
  obtain ⟨-, hall, hnothing, -⟩ := input_kept_in_order hmachine
  have htwo : done.filterMap stored? ++ [9] = [7, 8] ++ [9] := by
    rw [← hinput, hkept done _ hdone, hinput]
    rfl
  have hthree := hall _ _ hmore
  rw [hempty, List.append_nil] at hthree
  exact ⟨stopped, machine, done, more, hstopped, hmachine, hdone, hinput,
    List.append_cancel_right htwo, hmore, hthree, hnothing table table_drives hempty .nothing⟩

end TapeMachine

end Switchboard
