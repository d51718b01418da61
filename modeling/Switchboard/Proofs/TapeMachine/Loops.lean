import Switchboard.Proofs.TapeMachine.View

namespace Switchboard.TapeMachine

open Switchboard.Bracket LoopTree

-- A run of a tree brings the machine to the place after it, or to the fault that the tree meets.
def Brings (machine : TapeMachine) (code : Array Char) (place : Nat) : Ending → Prop
  | .finished s => ∃ count next, Leads count machine next ∧ next.Shows code place s
  | .stopped fault s =>
      ∃ fuel final, machine.walk fuel = (some (.error fault), final) ∧ final.workspace = s

variable {machine next final : TapeMachine} {code : Array Char} {position place : Nat}
  {tree : LoopTree} {after : List Char} {s : Workspace} {ending : Ending}

theorem Brings.of_leads {count : Nat} (h : Leads count machine next)
    (hnext : next.Brings code place ending) : machine.Brings code place ending := by
  cases ending with
  | finished s =>
      obtain ⟨further, last, hleads, hlast⟩ := hnext
      exact ⟨_, last, h.trans hleads, hlast⟩
  | stopped fault s =>
      obtain ⟨fuel, final, hwalk, hfinal⟩ := hnext
      exact ⟨fuel + count, final, by rw [h, hwalk], hfinal⟩

-- A place that lies elsewhere is not reached without a step.
theorem Brings.of_turn (hturn : ∀ fuel, machine.walk (fuel + 1) = next.walk (fuel + 1))
    (hplace : next.cursor ≠ place) (hnext : next.Brings code place ending) :
    machine.Brings code place ending := by
  cases ending with
  | finished s =>
      obtain ⟨count, last, hleads, hlast⟩ := hnext
      cases count with
      | zero =>
          have hsame : (none, next) = (none, last) := hleads 0
          cases hsame
          exact absurd hlast.cursor_eq hplace
      | succ count =>
          refine ⟨count + 1, last, ?_, hlast⟩
          intro fuel
          rw [← Nat.add_assoc, hturn, Nat.add_assoc, hleads]
  | stopped fault s =>
      obtain ⟨fuel, final, hwalk, hfinal⟩ := hnext
      cases fuel with
      | zero => cases hwalk
      | succ fuel => exact ⟨fuel + 1, final, by rw [hturn, hwalk], hfinal⟩

-- The induction is on the run of the tree, so that a loop that is entered again is covered by the
-- hypothesis for its next round.
theorem brings_of_runs (hruns : Runs position tree s ending)
    (hstands : Stands code position (tree.text ++ after)) (h : machine.Shows code position s) :
    machine.Brings code (position + tree.text.length) ending := by
  induction hruns generalizing machine after with
  | done => exact ⟨0, machine, Leads.refl machine, h⟩
  | @plain position c isPlain rest s result ending happly hrest ih =>
      obtain ⟨next, hleads, hnext⟩ := h.step_plain isPlain hstands.head happly
      rw [length_plain]
      exact .of_leads hleads (ih hstands.tail hnext)
  | @fault position c isPlain rest s fault happly =>
      exact ⟨1, machine, h.walk_fault isPlain hstands.head happly, h.workspace_eq⟩
  | @leave position body rest s ending hzero hrest ih =>
      have hloop := text_loop_append body rest after ▸ hstands
      obtain ⟨next, hleads, hnext⟩ := h.enter_zero hzero hloop
      rw [length_loop]
      exact .of_leads hleads (ih hloop.tail.skip.tail hnext)
  | @again position body rest s result ending hzero hbody hround ihBody ihRound =>
      have hloop := text_loop_append body rest after ▸ hstands
      obtain ⟨next, hleads, hnext⟩ := h.enter_nonzero hzero hloop
      obtain ⟨count, last, hpass, hlast⟩ := ihBody hloop.tail hnext
      obtain ⟨first, hfirst, hturn⟩ := hlast.exists_turn hloop
      have hplace : first.cursor ≠ position + (LoopTree.loop body rest).text.length := by
        rw [hfirst.cursor_eq, length_loop]
        omega
      exact .of_leads hleads (.of_leads hpass (.of_turn hturn hplace (ihRound hstands hfirst)))
  | @stop position body rest s fault last hzero hbody ih =>
      have hloop := text_loop_append body rest after ▸ hstands
      obtain ⟨next, hleads, hnext⟩ := h.enter_nonzero hzero hloop
      exact .of_leads hleads (ih hloop.tail hnext)

-- The other way round, a machine whose run ends is at work on a tree that has an end. The
-- induction is on the fuel, since a loop that is entered again is still the same tree.
theorem exists_runs {fuel : Nat} {outcome : Except TapeFault Unit}
    (hends : machine.walk fuel = (some outcome, final))
    (hstands : Stands code position (tree.text ++ after)) (h : machine.Shows code position s) :
    ∃ ending, Runs position tree s ending := by
  induction fuel using Nat.strong_induction_on
    generalizing machine position tree after s with
  | _ fuel ih =>
      cases tree with
      | done => exact ⟨_, .done⟩
      | plain c isPlain rest =>
          cases happly : s.apply position c with
          | error fault => exact ⟨_, .fault happly⟩
          | ok result =>
              obtain ⟨next, hleads, hnext⟩ := h.step_plain isPlain hstands.head happly
              obtain ⟨left, hfuel, hwalk⟩ := hleads.passes hends
              obtain ⟨ending, hrest⟩ := ih left (by omega) hwalk hstands.tail hnext
              exact ⟨ending, .plain happly hrest⟩
      | loop body rest =>
          have hloop := text_loop_append body rest after ▸ hstands
          by_cases hzero : s.current = 0
          · obtain ⟨next, hleads, hnext⟩ := h.enter_zero hzero hloop
            obtain ⟨left, hfuel, hwalk⟩ := hleads.passes hends
            obtain ⟨ending, hrest⟩ := ih left (by omega) hwalk hloop.tail.skip.tail hnext
            exact ⟨ending, .leave hzero hrest⟩
          · obtain ⟨next, hleads, hnext⟩ := h.enter_nonzero hzero hloop
            obtain ⟨left, hfuel, hwalk⟩ := hleads.passes hends
            obtain ⟨ending, hbody⟩ := ih left (by omega) hwalk hloop.tail hnext
            cases ending with
            | stopped fault last => exact ⟨_, .stop hzero hbody⟩
            | finished result =>
                obtain ⟨count, last, hpass, hlast⟩ := brings_of_runs hbody hloop.tail hnext
                obtain ⟨spare, hleft, hwalk⟩ := hpass.passes hwalk
                obtain ⟨first, hfirst, hturn⟩ := hlast.exists_turn hloop
                cases spare with
                | zero => cases hwalk
                | succ spare =>
                    rw [hturn] at hwalk
                    obtain ⟨ending, hagain⟩ := ih (spare + 1) (by omega) hwalk hstands hfirst
                    exact ⟨ending, .again hzero hbody hagain⟩

-- The run of a machine ends as the reference says. What was printed is still in the machine.
def Ends (machine : TapeMachine) (ending : Ending) : Prop :=
  ∃ fuel final, machine.walk fuel = (some ending.outcome, final) ∧
    final.workspace = ending.workspace

theorem Ends.unique {other : Ending} (h : machine.Ends ending) (hother : machine.Ends other) :
    ending = other := by
  obtain ⟨fuel, final, hwalk, hworkspace⟩ := h
  obtain ⟨fuel', final', hwalk', hworkspace'⟩ := hother
  obtain ⟨houtcome, rfl⟩ := walk_unique hwalk hwalk'
  exact Ending.eq_of_outcome_eq houtcome (hworkspace.symm.trans hworkspace')

theorem stands_whole (htree : tree.text = code.toList) : Stands code 0 (tree.text ++ []) := by
  rw [List.append_nil, htree]
  exact Stands.start code

section Whole

variable (h : machine.Shows code 0 s) (htree : tree.text = code.toList)

include h htree

theorem ends_of_runs (hruns : Runs 0 tree s ending) : machine.Ends ending := by
  have hbrings := brings_of_runs hruns (stands_whole htree) h
  cases ending with
  | stopped fault last => exact hbrings
  | finished last =>
      obtain ⟨count, next, hleads, hnext⟩ := hbrings
      have hend : code[0 + tree.text.length]? = none := by
        rw [htree, Nat.zero_add, Array.length_toList]
        exact Array.getElem?_eq_none (Nat.le_refl _)
      exact ⟨1 + count, next, by rw [hleads, hnext.walk_end hend]; rfl, hnext.workspace_eq⟩

theorem ends_iff_runs : machine.Ends ending ↔ Runs 0 tree s ending := by
  constructor
  · rintro ⟨fuel, final, hwalk, hworkspace⟩
    obtain ⟨other, hruns⟩ := exists_runs hwalk (stands_whole htree) h
    have hsame := Ends.unique ⟨fuel, final, hwalk, hworkspace⟩ (ends_of_runs h htree hruns)
    rwa [hsame]
  · exact ends_of_runs h htree

-- With an end some fuel is enough, and fuel that is enough shows an end.
theorem walk_eq_none_iff_diverges :
    (∀ fuel, (machine.walk fuel).1 = none) ↔ Diverges 0 tree s := by
  rw [diverges_iff]
  constructor
  · intro hnone ending hruns
    obtain ⟨fuel, final, hwalk, -⟩ := ends_of_runs h htree hruns
    have hfuel := hnone fuel
    rw [hwalk] at hfuel
    cases hfuel
  · intro hnone fuel
    cases hwalk : machine.walk fuel with
    | mk outcome final =>
        cases outcome with
        | none => rfl
        | some outcome =>
            obtain ⟨ending, hruns⟩ := exists_runs hwalk (stands_whole htree) h
            exact absurd hruns (hnone ending)

end Whole

section HandOver

variable (walked : Option (Except TapeFault Unit) × TapeMachine) (s : Workspace)

theorem handOver_eq_none_iff : (handOver walked).1 = none ↔ walked.1 = none := by
  rcases walked with ⟨_ | ⟨fault | _⟩, final⟩ <;> simp [handOver]

theorem handOver_eq_error_iff (fault : TapeFault) :
    (handOver walked).1 = some (.error fault) ∧ (handOver walked).2.workspace = s ↔
      ∃ final, walked = (some (.error fault), final) ∧ final.workspace = s := by
  rcases walked with ⟨_ | ⟨fault | _⟩, final⟩ <;> simp [handOver]

theorem handOver_eq_ok_iff :
    (handOver walked).1 = some (.ok s.output.toArray) ∧
        (handOver walked).2.workspace = { s with output := [] } ↔
      ∃ final, walked = (some (.ok ()), final) ∧ final.workspace = s := by
  rcases walked with ⟨_ | ⟨fault | _⟩, final⟩
  · simp [handOver]
  · simp [handOver]
  · constructor
    · rintro ⟨houtput, hworkspace⟩
      obtain ⟨cells, pointer, input, output⟩ := s
      simp_all [handOver, workspace]
    · rintro ⟨final', hwalked, rfl⟩
      cases hwalked
      exact ⟨rfl, rfl⟩

end HandOver

-- All cells are zero again, and the queued input is that of before.
theorem shows_loaded (machine : TapeMachine) (code : String) :
    (machine.loaded code).Shows code.toList.toArray 0
      ⟨List.replicate machine.tape.size 0, 0, machine.input, []⟩ := by
  refine ⟨rfl, rfl, rfl, ?_⟩
  simp only [workspace, loaded, clear, Tape.bytes_cleared]
  rfl

-- A machine walks over flat text, yet for a program with balanced brackets it does what the tree
-- of loops says: it ends where the tree ends, with the same bytes, the same fault and the same
-- workspace, and it runs forever where the tree does.
theorem run_follows_loops (machine : TapeMachine) {code : String} (h : Balanced code.toList)
    (journal : Journal) :
    let start : Workspace := ⟨List.replicate machine.tape.size 0, 0, machine.input, []⟩
    let answer fuel := ((run fuel machine code).run journal).1
    ∃ tree, LoopTree.ofCode? code.toList = some tree ∧
      (∀ s, Runs 0 tree start (.finished s) ↔
        ∃ fuel, (answer fuel).1 = some (.ok s.output.toArray) ∧
          (answer fuel).2.workspace = { s with output := [] }) ∧
      (∀ fault s, Runs 0 tree start (.stopped fault s) ↔
        ∃ fuel, (answer fuel).1 = some (.error fault) ∧ (answer fuel).2.workspace = s) ∧
      (Diverges 0 tree start ↔ ∀ fuel, (answer fuel).1 = none) := by
  intro start answer
  obtain ⟨tree, htree⟩ := exists_ofCode? h
  have hshows : (machine.loaded code).Shows code.toList.toArray 0 start :=
    shows_loaded machine code
  have htext : tree.text = code.toList.toArray.toList := ofCode?_eq_some_iff.mp htree
  have hanswer : ∀ fuel, answer fuel = handOver ((machine.loaded code).walk fuel) := by
    intro fuel
    exact run_outcome fuel machine journal ((unmatched?_eq_none_iff code.toList).mpr h)
  refine ⟨tree, htree, ?_, ?_, ?_⟩
  · intro s
    simp only [hanswer, handOver_eq_ok_iff]
    exact (ends_iff_runs hshows htext).symm
  · intro fault s
    simp only [hanswer, handOver_eq_error_iff]
    exact (ends_iff_runs hshows htext).symm
  · simp only [hanswer, handOver_eq_none_iff]
    exact (walk_eq_none_iff_diverges hshows htext).symm

-- The loop runs twice before it is left, and the last move goes past the first of two cells.
theorem run_follows_loops_underflow :
    ∃ machine, ofLength 2 = .ok machine ∧
      ∃ fuel, ((run fuel (machine.pushInput [2, 7]) ",[-.]<").run .nothing).1.1 =
          some (.error (.pointerUnderflow 5)) ∧
        ((run fuel (machine.pushInput [2, 7]) ",[-.]<").run .nothing).1.2.workspace =
          ⟨[0, 0], 0, [7], [1, 0]⟩ := by
  refine ⟨_, rfl, ?_⟩
  have hbalanced : Balanced ",[-.]<".toList := (unmatched?_eq_none_iff _).mp (by decide)
  obtain ⟨tree, htree, -, hstopped, -⟩ := run_follows_loops
    (pushInput ⟨.blank 2, #[], 0, [], #[], none⟩ [2, 7]) hbalanced .nothing
  have htree' : LoopTree.ofCode? ",[-.]<".toList = some
      (.plain ',' (by decide) (.loop (.plain '-' (by decide) (.plain '.' (by decide) .done))
        (.plain '<' (by decide) .done))) := ofCode?_eq_some_iff.mpr (by decide)
  obtain rfl := Option.some.inj (htree'.symm.trans htree)
  refine (hstopped _ _).mp (.plain rfl ?_)
  refine .again (by decide) (.plain rfl (.plain rfl .done)) ?_
  refine .again (by decide) (.plain rfl (.plain rfl .done)) ?_
  exact .leave rfl (.fault rfl)

end Switchboard.TapeMachine
