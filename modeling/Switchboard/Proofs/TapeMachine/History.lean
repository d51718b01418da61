import Switchboard.Proofs.TapeMachine.Course

namespace Switchboard.TapeMachine

open Switchboard.Bracket

variable {length : Nat} {machine other : TapeMachine} {code : String}

theorem Reachable.walked (h : Reachable length machine) (fuel : Nat) :
    Reachable length (machine.walk fuel).2 := by
  have hexecuted := h.executed fuel .nothing
  rwa [execute_outcome] at hexecuted

-- A program is run from a machine that shows nothing of what was there before, but for the length
-- of the tape and the queue.
theorem loaded_eq (hsize : machine.tape.size = other.tape.size)
    (hinput : machine.input = other.input) (code : String) :
    machine.loaded code = other.loaded code := by
  simp only [loaded, clear, Tape.cleared, hsize, hinput]

-- A refused program leaves the machine empty.
theorem run_refused (fuel : Nat) (machine : TapeMachine) (journal : Journal) {bracket : Char}
    {position : Nat} (h : unmatched? code.toList = some (bracket, position)) :
    ((run fuel machine code).run journal).1 =
      (some (.error (.unbalancedBracket bracket position)), machine.loaded "") := by
  simp only [run, setCode, h]
  rfl

-- What is handed over is the output of the last machine on the way.
theorem exists_course_of_handOver {fuel : Nat} {bytes : Array UInt8}
    (h : (handOver (machine.walk fuel)).1 = some (.ok bytes)) :
    ∃ trace last, Course machine trace last ∧ last.code[last.cursor]? = none ∧
      bytes = last.output ∧ (handOver (machine.walk fuel)).2 = { last with output := #[] } := by
  obtain ⟨trace, last, hcourse, hleaves⟩ := exists_course fuel machine
  generalize machine.walk fuel = walked at h hleaves ⊢
  cases hleaves with
  | halfway => cases h
  | faulty _ _ => cases h
  | behind hend =>
      cases h
      exact ⟨trace, last, hcourse, hend, rfl, rfl⟩

-- A run gives the same answer at every step on two machines of one length with one queue, and it
-- leaves one machine behind, whatever was asked of the two before. What it hands over is what was
-- printed on its own way.
theorem run_forgets_history (hsize : machine.tape.size = other.tape.size)
    (hinput : machine.input = other.input) (code : String) (journal listener : Journal) :
    let answer fuel := ((run fuel machine code).run journal).1
    (∀ fuel, answer fuel = ((run fuel other code).run listener).1) ∧
    ∀ fuel bytes, (answer fuel).1 = some (.ok bytes) →
      (answer fuel).2.output = #[] ∧
      ∃ trace last, Course (machine.loaded code) trace last ∧
        last.code[last.cursor]? = none ∧ bytes.toList = trace.filterMap printing? := by
  intro answer
  cases hcode : unmatched? code.toList with
  | some found =>
      obtain ⟨bracket, position⟩ := found
      have hanswer : ∀ fuel, answer fuel =
          (some (.error (.unbalancedBracket bracket position)), machine.loaded "") :=
        fun fuel => run_refused fuel machine journal hcode
      refine ⟨fun fuel => ?_, fun fuel bytes hbytes => ?_⟩
      · rw [hanswer, run_refused fuel other listener hcode, loaded_eq hsize hinput]
      · rw [hanswer] at hbytes
        cases hbytes
  | none =>
      have hanswer : ∀ fuel, answer fuel = handOver ((machine.loaded code).walk fuel) :=
        fun fuel => run_outcome fuel machine journal hcode
      refine ⟨fun fuel => ?_, fun fuel bytes hbytes => ?_⟩
      · rw [hanswer, run_outcome fuel other listener hcode, loaded_eq hsize hinput]
      · rw [hanswer] at hbytes ⊢
        obtain ⟨trace, last, hcourse, hend, rfl, hfinal⟩ := exists_course_of_handOver hbytes
        rw [hfinal]
        refine ⟨rfl, trace, last, hcourse, hend, ?_⟩
        rw [hcourse.output]
        rfl

-- One of the two has stopped in the middle of its program, has printed, and was moved off its tape
-- by hand since. The other one is new.
theorem run_forgets_history_disturbed :
    ∃ machine other, Reachable 2 machine ∧ Reachable 2 other ∧
      machine.fault = some (.pointerUnderflow 5) ∧ machine.cursor = 5 ∧ machine.output = #[1] ∧
      machine.tape.bytes = [1, 0] ∧ machine.input = other.input ∧
      ((run 9 machine ",.").run .nothing).1 = ((run 9 other ",.").run .nothing).1 ∧
      ((run 9 machine ",.").run .nothing).1.1 = some (.ok #[7]) ∧
      ((run 9 machine ",.").run .nothing).1.2.output = #[] := by
  have hmade : Reachable 2 ⟨.blank 2, #[], 0, [], #[], none⟩ := .made rfl
  have hstopped := (hmade.loaded "+.[>]>").walked 9
  have hmoved := ((hstopped.obeyed "<").obeyed "<").fed [7]
  have hcode : unmatched? ",.".toList = none := by decide
  obtain ⟨machine, hmachine, hfault, hcursor, houtput, hbytes, hinput, hsize, hprinted⟩ :
      ∃ machine, Reachable 2 machine ∧ machine.fault = some (.pointerUnderflow 5) ∧
        machine.cursor = 5 ∧ machine.output = #[1] ∧ machine.tape.bytes = [1, 0] ∧
        machine.input = [7] ∧ machine.tape.size = 2 ∧
        (handOver ((machine.loaded ",.").walk 9)).1 = some (.ok #[7]) :=
    ⟨_, hmoved, by decide +kernel, by decide +kernel, by decide +kernel, by decide +kernel,
      by decide +kernel, by decide +kernel, by decide +kernel⟩
  have hother := hmade.fed [7]
  obtain ⟨hsame, hown⟩ := run_forgets_history (hsize.trans hother.sound.size_eq.symm) hinput ",."
    .nothing .nothing
  have hanswer : ((run 9 machine ",.").run .nothing).1.1 = some (.ok #[7]) := by
    rw [run_outcome 9 machine .nothing hcode, hprinted]
  exact ⟨machine, _, hmachine, hother, hfault, hcursor, houtput, hbytes, hinput, hsame 9, hanswer,
    (hown 9 _ hanswer).1⟩

theorem setCode_of_balanced (machine : TapeMachine) (hcode : Balanced code.toList) :
    machine.setCode code =
      (.ok (), { machine with code := code.toList.toArray, cursor := 0 }) := by
  simp only [setCode, (unmatched?_eq_none_iff code.toList).mpr hcode]

-- An operator does not look at a fault that is already there. Its own fault takes the place of it.
theorem operate_failed (hclean : machine.fault = none) (stale : TapeFault) (c : Char) :
    (machine.failed stale).operate c =
      { machine.operate c with fault := (machine.operate c).fault.or (some stale) } := by
  unfold operate
  split
  · unfold moveRight
    cases htape : machine.tape.right? <;> simp [failed, htape, hclean]
  · unfold moveLeft
    cases htape : machine.tape.left? <;> simp [failed, htape, hclean]
  · simp [failed, increment, hclean]
  · simp [failed, decrement, hclean]
  · simp [failed, print, hclean]
  · unfold read
    cases hinput : machine.input <;> simp [failed, hinput, hclean]
  · unfold enterLoop
    cases hplace : closing? machine.code 0 (machine.cursor + 1) <;>
      by_cases hzero : machine.tape.current = 0 <;> simp [failed, hplace, hzero, hclean]
  · unfold repeatLoop
    cases hplace : opening? machine.code 0 machine.cursor <;>
      by_cases hzero : machine.tape.current = 0 <;> simp [failed, hplace, hzero, hclean]
  · simp [failed, hclean]

section Stale

variable (hclean : machine.fault = none) (stale : TapeFault) {c : Char}
  (hchar : machine.code[machine.cursor]? = some c) (fuel : Nat)

include hclean hchar

-- The first character is carried out, and then the run ends all the same.
theorem walk_stale (hfault : (machine.operate c).fault = none) :
    (machine.failed stale).walk (fuel + 1) = (some (.error stale), machine.operate c) := by
  have hfailed : (machine.failed stale).code[(machine.failed stale).cursor]? = some c := hchar
  simp only [walk, hfailed, operate_failed hclean, hfault, Option.none_or]
  rw [← hfault]

-- A character that fails by itself is reported as if nothing else had been wrong.
theorem walk_stale_own (h : machine.Sound length) {own : TapeFault}
    (hfault : (machine.operate c).fault = some own) :
    (machine.failed stale).walk (fuel + 1) = (some (.error own), machine) := by
  have hfailed : (machine.failed stale).code[(machine.failed stale).cursor]? = some c := hchar
  have hoperate : (machine.failed stale).operate c = machine.failed own := by
    rw [operate_failed hclean, (blocked_of_operate h hclean hchar hfault).2]
    rfl
  exact walk_failed hfailed hoperate hclean fuel

end Stale

-- A program that is loaded without a fault pending runs as the workspace says, and a fault that
-- ends it is that of its own character at the cursor, with everything before done once. A fault
-- that is pending is not discarded: it ends the run after the first character, which is carried
-- out, unless there is none or it fails by itself.
theorem execute_after_load (h : Reachable length machine) (hcode : Balanced code.toList)
    (journal : Journal) :
    let start := (machine.setCode code).2
    let answer fuel := ((execute fuel start).run journal).1
    (machine.setCode code).1 = .ok () ∧
    (machine.fault = none →
      (∀ other : TapeMachine, other.fault = none → other.tape = machine.tape →
        other.input = machine.input → other.output = machine.output →
        ∀ fuel listener, ((execute fuel (other.setCode code).2).run listener).1 = answer fuel) ∧
      ∀ fuel fault final, answer fuel = (some (.error fault), final) →
        ∃ trace c, Course start trace final ∧ code.toList[final.cursor]? = some c ∧
          final.Blocked c fault) ∧
    ∀ stale, machine.fault = some stale →
      let clean := { start with fault := none }
      (code.toList = [] → ∀ fuel, answer (fuel + 1) = (some (.ok ()), start)) ∧
      ∀ c rest, code.toList = c :: rest → ∀ fuel,
        (∀ own, (clean.operate c).fault = some own →
          answer (fuel + 1) = (some (.error own), clean)) ∧
        ((clean.operate c).fault = none →
          answer (fuel + 1) = (some (.error stale), clean.operate c)) := by
  intro start answer
  have hload := machine.setCode_of_balanced hcode
  have hstart : start = { machine with code := code.toList.toArray, cursor := 0 } :=
    congrArg Prod.snd hload
  have hsound : start.Sound length := (h.loaded code).sound
  have hanswer : ∀ fuel, answer fuel = start.walk fuel :=
    fun fuel => execute_outcome fuel start journal
  refine ⟨congrArg Prod.fst hload, fun hclean => ⟨?_, ?_⟩, fun stale hstale => ?_⟩
  · intro other hother htape hinput houtput fuel listener
    have hsame : (other.setCode code).2 = start := by
      rw [other.setCode_of_balanced hcode, hstart, ← htape, ← hinput, ← houtput, hclean, ← hother]
    rw [hsame, execute_outcome, hanswer]
  · intro fuel fault final hends
    have hstartClean : start.fault = none := by rw [hstart, ← hclean]
    obtain ⟨trace, c, hcourse, hchar, hblocked⟩ :=
      exists_course_of_error hsound hstartClean ((hanswer fuel).symm.trans hends)
    rw [hcourse.code_eq, hstart] at hchar
    exact ⟨trace, c, hcourse, by simpa using hchar, hblocked⟩
  · intro clean
    have hpending : start = clean.failed stale := by
      simp only [clean, failed, hstart, ← hstale]
    refine ⟨fun hempty fuel => ?_, fun c rest htext fuel => ?_⟩
    · have hend : start.code[start.cursor]? = none := by simp [hstart, hempty]
      simp only [hanswer, walk, hend]
    · have hchar : clean.code[clean.cursor]? = some c := by simp [clean, hstart, htext]
      have hcleanSound : clean.Sound length := hsound.of_keeps ⟨rfl, rfl, .inl rfl⟩
      rw [hanswer, hpending]
      exact ⟨fun own hown => walk_stale_own rfl stale hchar fuel hcleanSound hown,
        walk_stale rfl stale hchar fuel⟩

-- One machine has stopped in the middle of a program, and the other one was worked by hand up to
-- the same tape and the same output. A third one is left with the fault of a move by hand, which
-- ends a program of one character after that character.
theorem execute_after_load_moved :
    ∃ machine other moved, Reachable 2 machine ∧ Reachable 2 other ∧ Reachable 2 moved ∧
      machine.cursor = 5 ∧ other.cursor = 0 ∧ moved.fault = some (.pointerUnderflow 0) ∧
      (∀ fuel, ((execute fuel (other.setCode "<-<").2).run .nothing).1 =
        ((execute fuel (machine.setCode "<-<").2).run .nothing).1) ∧
      (∃ trace c final, ((execute 3 (machine.setCode "<-<").2).run .nothing).1 =
          (some (.error (.pointerUnderflow 2)), final) ∧
        Course (machine.setCode "<-<").2 trace final ∧ "<-<".toList[final.cursor]? = some c ∧
        final.Blocked c (.pointerUnderflow 2)) ∧
      ∃ final, ((execute 2 (moved.setCode "+").2).run .nothing).1 =
        (some (.error (.pointerUnderflow 0)), final) ∧ final.tape.bytes = [1, 0] := by
  have hmade : Reachable 2 ⟨.blank 2, #[], 0, [], #[], none⟩ := .made rfl
  have hmoved := hmade.obeyed "<"
  have hmoves : Balanced "<-<".toList := (unmatched?_eq_none_iff _).mp (by decide)
  have hplus : Balanced "+".toList := (unmatched?_eq_none_iff _).mp (by decide)
  obtain ⟨machine, other, hmachine, hother, hfault, hclean, hcursor, hstart, htape, hinput, houtput,
      hwalk⟩ :
      ∃ machine other, Reachable 2 machine ∧ Reachable 2 other ∧ machine.fault = none ∧
        other.fault = none ∧ machine.cursor = 5 ∧ other.cursor = 0 ∧ other.tape = machine.tape ∧
        other.input = machine.input ∧ other.output = machine.output ∧
        ((machine.setCode "<-<").2.walk 3).1 = some (.error (.pointerUnderflow 2)) :=
    ⟨_, _, (hmade.loaded "+.[>]>").walked 9, ((hmade.obeyed "+").obeyed ".").obeyed ">",
      by decide +kernel, by decide +kernel, by decide +kernel, by decide +kernel, rfl, rfl, rfl,
      by decide +kernel⟩
  have hends : ((execute 3 (machine.setCode "<-<").2).run .nothing).1 =
      (some (.error (.pointerUnderflow 2)), ((machine.setCode "<-<").2.walk 3).2) := by
    rw [execute_outcome, ← hwalk]
  obtain ⟨-, hloaded, -⟩ := execute_after_load hmachine hmoves .nothing
  obtain ⟨hagree, hfails⟩ := hloaded hfault
  obtain ⟨trace, c, hfinal⟩ := hfails 3 _ _ hends
  obtain ⟨-, -, hstale⟩ := execute_after_load hmoved hplus .nothing
  obtain ⟨-, hpending⟩ := hstale (.pointerUnderflow 0) (by decide +kernel)
  refine ⟨machine, other, _, hmachine, hother, hmoved, hcursor, hstart, by decide +kernel, ?_,
    ⟨trace, c, _, hends, hfinal⟩, ?_⟩
  · exact fun fuel => hagree other hclean htape hinput houtput fuel .nothing
  · exact ⟨_, (hpending '+' [] rfl 1).2 (by decide +kernel), by decide +kernel⟩

-- The two machines show the same workspace, and the program has no move that could fail.
theorem execute_after_load_stale :
    ∃ machine other, Reachable 1 machine ∧ Reachable 1 other ∧ machine.tape = other.tape ∧
      machine.input = other.input ∧ machine.output = other.output ∧ Balanced "+".toList ∧
      ((execute 2 (machine.setCode "+").2).run .nothing).1.1 =
        some (.error (.pointerUnderflow 0)) ∧
      ((execute 2 (other.setCode "+").2).run .nothing).1.1 = some (.ok ()) := by
  have hmade : Reachable 1 ⟨.blank 1, #[], 0, [], #[], none⟩ := .made rfl
  have hmoved := hmade.obeyed "<"
  have hbalanced : Balanced "+".toList := (unmatched?_eq_none_iff _).mp (by decide)
  refine ⟨_, _, hmoved, hmade, rfl, rfl, rfl, hbalanced, ?_, ?_⟩
  · rw [execute_outcome]
    decide +kernel
  · rw [execute_outcome]
    decide +kernel

end Switchboard.TapeMachine
