import Switchboard.TapeMachine.Machine
import Switchboard.Proofs.Table.Chain

namespace Switchboard.TapeMachine

open Method

-- What one character of the code does, before the machine moves on to the next one.
def operate (machine : TapeMachine) : Char → TapeMachine
  | '>' => machine.moveRight
  | '<' => machine.moveLeft
  | '+' => machine.increment
  | '-' => machine.decrement
  | '.' => machine.print
  | ',' => machine.read
  | '[' => machine.enterLoop
  | ']' => machine.repeatLoop
  | _ => machine

def operators : List Char := ['>', '<', '+', '-', '.', ',', '[', ']']

theorem operate_of_notMem (machine : TapeMachine) {c : Char} (h : c ∉ operators) :
    machine.operate c = machine := by
  simp only [operators, List.mem_cons, List.not_mem_nil, or_false, not_or] at h
  unfold operate
  split <;> simp_all

-- What a token of its own does. Only single characters are operators.
def obey (machine : TapeMachine) (token : String) : TapeMachine :=
  match token.toList with
  | [c] => machine.operate c
  | _ => machine

@[simp] theorem obey_singleton (machine : TapeMachine) (c : Char) :
    machine.obey (String.singleton c) = machine.operate c := by
  simp only [obey, String.toList_singleton]

theorem obey_of_notMem (machine : TapeMachine) {token : String}
    (h : token ∉ operators.map String.singleton) : machine.obey token = machine := by
  unfold obey
  split
  · rename_i c htoken
    refine machine.operate_of_notMem fun hmem => h (List.mem_map.mpr ⟨c, hmem, ?_⟩)
    rw [← String.toList_inj, htoken, String.toList_singleton]
  · rfl

theorem methods_faultless : Faultless (Handler.methods (H := TapeMachine)) := by decide

theorem actions_perform :
    Perform (Handler.methods (H := TapeMachine)) (operators.map String.singleton) obey := rfl

-- A table for machines of this kind. The integers that it would take make no difference.
def Drives (board : Table TapeMachine) : Prop :=
  ∃ domain journal, ((Handler.compileTable TapeMachine domain).run journal).1 = .ok board

theorem table_drives : Drives table := by
  obtain ⟨set, hset⟩ := MethodSet.exists_of_faultless methods_faultless
  refine ⟨default, .nothing, ?_⟩
  rw [Handler.compileTable, Table.compile_outcome, table, hset]
  rfl

namespace Drives

variable {board : Table TapeMachine} (hboard : Drives board) (machine : TapeMachine)
  (journal : Journal)

include hboard

theorem exists_binds : ∃ (set : MethodSet TapeMachine) (domain : Domain),
    set.Binds (Handler.methods (H := TapeMachine)) ∧ board = .ofMethodSet set domain := by
  obtain ⟨domain, journal, hcompile⟩ := hboard
  obtain ⟨set, -, hset, -, rfl⟩ := Table.exists_binds hcompile
  exact ⟨set, domain, hset, rfl⟩

theorem dispatch_operator {token : String} (h : token ∈ operators.map String.singleton) :
    ∃ route, ((board.dispatch machine token).run journal).1 = (.ok route, machine.obey token) := by
  obtain ⟨set, domain, hset, rfl⟩ := hboard.exists_binds
  obtain ⟨slot, hdispatch⟩ := Table.dispatch_perform domain hset machine journal actions_perform h
  exact ⟨_, hdispatch⟩

theorem dispatch_comment {token : String} (h : token ∉ operators.map String.singleton) :
    ((board.dispatch machine token).run journal).1 = (.ok .text, machine) := by
  obtain ⟨set, domain, hset, rfl⟩ := hboard.exists_binds
  have hmem : Method.stringSink (fun (machine : TapeMachine) _ => machine) ∈
      Handler.methods (H := TapeMachine) := List.mem_cons_self
  exact Table.dispatch_text domain hset machine journal (actions_perform.token_ne h)
    (.inl (by decide)) hmem rfl rfl

-- Every token is taken: an operator by its action, and all others by the sink.
theorem dispatch_token (token : String) :
    ∃ route, ((board.dispatch machine token).run journal).1 = (.ok route, machine.obey token) := by
  by_cases hoperator : token ∈ operators.map String.singleton
  · exact hboard.dispatch_operator machine journal hoperator
  · rw [machine.obey_of_notMem hoperator]
    exact ⟨_, hboard.dispatch_comment machine journal hoperator⟩

end Drives

theorem dispatch_singleton (machine : TapeMachine) (c : Char) (journal : Journal) :
    ∃ route, ((table.dispatch machine (String.singleton c)).run journal).1 =
      (.ok route, machine.operate c) := by
  simpa using table_drives.dispatch_token machine journal (String.singleton c)

-- A run without its journal, and without the table that every character goes through.
def walk : Nat → TapeMachine → Option (Except TapeFault Unit) × TapeMachine
  | 0, machine => (none, machine)
  | fuel + 1, machine =>
      match machine.code[machine.cursor]? with
      | none => (some (.ok ()), machine)
      | some c =>
          match (machine.operate c).fault with
          | some fault => (some (.error fault), { machine.operate c with fault := none })
          | none =>
              walk fuel { machine.operate c with cursor := (machine.operate c).cursor + 1 }

theorem failed_undone {machine : TapeMachine} (hclean : machine.fault = none) (fault : TapeFault) :
    { machine.failed fault with fault := none } = machine := by
  rw [failed, ← hclean]

-- A fault is handed over, and the machine is left without it.
theorem walk_failed {start machine : TapeMachine} {c : Char} {fault : TapeFault}
    (hchar : start.code[start.cursor]? = some c) (hoperate : start.operate c = machine.failed fault)
    (hclean : machine.fault = none) (fuel : Nat) :
    start.walk (fuel + 1) = (some (.error fault), machine) := by
  simp only [walk, hchar, hoperate]
  exact congrArg _ (failed_undone hclean fault)

theorem runFrom_outcome (fuel : Nat) (machine : TapeMachine) (journal : Journal) :
    ((runFrom fuel machine).run journal).1 = machine.walk fuel := by
  induction fuel generalizing machine journal with
  | zero => rfl
  | succ fuel ih =>
      unfold runFrom walk
      cases machine.code[machine.cursor]? with
      | none => rfl
      | some c =>
          obtain ⟨route, hdispatch⟩ := dispatch_singleton machine c journal
          simp only [Logged.bind_outcome, hdispatch]
          cases hfault : (machine.operate c).fault with
          | none => exact ih _ _
          | some fault => rfl

theorem execute_outcome (fuel : Nat) (machine : TapeMachine) (journal : Journal) :
    ((execute fuel machine).run journal).1 = machine.walk fuel := by
  simp only [execute, Logged.bind_outcome, runFrom_outcome]
  generalize machine.walk fuel = answer
  rcases answer with ⟨_ | ⟨fault | _⟩, final⟩
  all_goals rfl

-- A machine with a program in it, before the first character.
def loaded (machine : TapeMachine) (code : String) : TapeMachine :=
  { machine.clear with code := code.toList.toArray, cursor := 0, output := #[] }

-- What was printed is part of the answer, and it leaves the machine.
def handOver : Option (Except TapeFault Unit) × TapeMachine →
    Option (Except TapeFault (Array UInt8)) × TapeMachine
  | (none, final) => (none, final)
  | (some (.error fault), final) => (some (.error fault), final)
  | (some (.ok ()), final) => (some (.ok final.output), { final with output := #[] })

theorem run_outcome (fuel : Nat) (machine : TapeMachine) {code : String} (journal : Journal)
    (h : Bracket.unmatched? code.toList = none) :
    ((run fuel machine code).run journal).1 =
      handOver ((machine.loaded code).walk fuel) := by
  simp only [run, setCode, h, Logged.bind_outcome, execute_outcome, loaded]
  generalize walk fuel _ = answer
  rcases answer with ⟨_ | ⟨fault | _⟩, final⟩
  all_goals rfl

-- The machine comes by another one on its way, after so many characters.
def Leads (count : Nat) (machine next : TapeMachine) : Prop :=
  ∀ fuel, machine.walk (fuel + count) = next.walk fuel

-- However much fuel is left over, a run ends in the same way.
theorem walk_add {fuel : Nat} {machine final : TapeMachine} {ending : Except TapeFault Unit}
    (h : machine.walk fuel = (some ending, final)) (more : Nat) :
    machine.walk (fuel + more) = (some ending, final) := by
  induction fuel generalizing machine with
  | zero => cases h
  | succ fuel ih =>
      rw [Nat.add_right_comm]
      unfold walk at h ⊢
      cases hchar : machine.code[machine.cursor]? with
      | none =>
          rw [hchar] at h
          exact h
      | some c =>
          simp only [hchar] at h ⊢
          cases hfault : (machine.operate c).fault with
          | none =>
              rw [hfault] at h
              exact ih h
          | some fault =>
              rw [hfault] at h
              exact h

theorem walk_of_le {fuel more : Nat} {machine : TapeMachine}
    (hends : (machine.walk fuel).1 ≠ none) (hle : fuel ≤ more) :
    machine.walk more = machine.walk fuel := by
  obtain ⟨ending, hending⟩ := Option.ne_none_iff_exists'.mp hends
  obtain ⟨extra, rfl⟩ := Nat.exists_eq_add_of_le hle
  have hwalk : machine.walk fuel = (some ending, (machine.walk fuel).2) := Prod.ext hending rfl
  exact (walk_add hwalk extra).trans hwalk.symm

theorem walk_eq_of_ends {fuel other : Nat} {machine : TapeMachine}
    (hends : (machine.walk fuel).1 ≠ none) (hother : (machine.walk other).1 ≠ none) :
    machine.walk fuel = machine.walk other := by
  obtain hle | hle := Nat.le_total fuel other
  · exact (walk_of_le hends hle).symm
  · exact walk_of_le hother hle

theorem walk_unique {fuel other : Nat} {machine final last : TapeMachine}
    {ending outcome : Except TapeFault Unit} (h : machine.walk fuel = (some ending, final))
    (hother : machine.walk other = (some outcome, last)) : ending = outcome ∧ final = last := by
  have hsame : machine.walk fuel = machine.walk other :=
    walk_eq_of_ends (by simp [h]) (by simp [hother])
  rw [h, hother] at hsame
  cases hsame
  exact ⟨rfl, rfl⟩

namespace Leads

variable {count further fuel : Nat} {machine next last final : TapeMachine} {c : Char}
  {ending : Except TapeFault Unit}

theorem refl (machine : TapeMachine) : Leads 0 machine machine := fun _ => rfl

theorem trans (h : Leads count machine next) (hnext : Leads further next last) :
    Leads (further + count) machine last := by
  intro fuel
  rw [← Nat.add_assoc, h, hnext]

theorem step (hchar : machine.code[machine.cursor]? = some c)
    (hfault : (machine.operate c).fault = none) :
    Leads 1 machine { machine.operate c with cursor := (machine.operate c).cursor + 1 } := by
  intro fuel
  simp only [walk, hchar, hfault]

-- A run that ends has come by every machine on its way.
theorem passes (h : Leads count machine next) (hends : machine.walk fuel = (some ending, final)) :
    ∃ rest, fuel = rest + count ∧ next.walk rest = (some ending, final) := by
  by_cases hle : count ≤ fuel
  · refine ⟨fuel - count, by omega, ?_⟩
    rw [← h, Nat.sub_add_cancel hle, hends]
  · have hmore := walk_add hends (count - fuel)
    rw [show fuel + (count - fuel) = 0 + count by omega, h] at hmore
    cases hmore

end Leads

end Switchboard.TapeMachine
