import Switchboard.TapeMachine.Machine
import Switchboard.Proofs.TapeMachine.LoopTree

namespace Switchboard

-- What a program works on, with no code and no place in it.
structure Workspace where
  cells : List UInt8
  pointer : Nat
  input : List UInt8
  output : List UInt8

namespace Workspace

def current (s : Workspace) : UInt8 := s.cells.getD s.pointer 0

def put (s : Workspace) (value : UInt8) : Workspace :=
  { s with cells := s.cells.set s.pointer value }

-- What a character that is no bracket means at a position. Cells count modulo 256.
def apply (s : Workspace) (position : Nat) : Char → Except TapeFault Workspace
  | '>' =>
      if s.pointer + 1 < s.cells.length then .ok { s with pointer := s.pointer + 1 }
      else .error (.pointerOverflow (s.cells.length - 1) position)
  | '<' =>
      if 0 < s.pointer then .ok { s with pointer := s.pointer - 1 }
      else .error (.pointerUnderflow position)
  | '+' => .ok (s.put (s.current + 1))
  | '-' => .ok (s.put (s.current - 1))
  | '.' => .ok { s with output := s.output ++ [s.current] }
  | ',' =>
      match s.input with
      | [] => .ok s
      | byte :: rest => .ok { s.put byte with input := rest }
  | _ => .ok s

end Workspace

-- How a run of a tree ends. A fault keeps the workspace as it was found.
inductive Ending where
  | finished (s : Workspace)
  | stopped (fault : TapeFault) (s : Workspace)

namespace Ending

def outcome : Ending → Except TapeFault Unit
  | .finished _ => .ok ()
  | .stopped fault _ => .error fault

def workspace : Ending → Workspace
  | .finished s => s
  | .stopped _ s => s

theorem eq_of_outcome_eq {ending other : Ending} (houtcome : ending.outcome = other.outcome)
    (hworkspace : ending.workspace = other.workspace) : ending = other := by
  cases ending <;> cases other <;> simp_all [outcome, workspace]

end Ending

namespace LoopTree

-- Runs of a tree that starts at a position of the code. The end of a loop takes up one position
-- after its body, just like its start before it.
inductive Runs : Nat → LoopTree → Workspace → Ending → Prop where
  | done {position s} : Runs position .done s (.finished s)
  | plain {position c isPlain rest s next ending} (happly : s.apply position c = .ok next)
      (hrest : Runs (position + 1) rest next ending) :
      Runs position (.plain c isPlain rest) s ending
  | fault {position c isPlain rest s fault} (happly : s.apply position c = .error fault) :
      Runs position (.plain c isPlain rest) s (.stopped fault s)
  | leave {position body rest s ending} (hzero : s.current = 0)
      (hrest : Runs (position + 1 + body.text.length + 1) rest s ending) :
      Runs position (.loop body rest) s ending
  | again {position body rest s next ending} (hzero : s.current ≠ 0)
      (hbody : Runs (position + 1) body s (.finished next))
      (hloop : Runs position (.loop body rest) next ending) :
      Runs position (.loop body rest) s ending
  | stop {position body rest s fault last} (hzero : s.current ≠ 0)
      (hbody : Runs (position + 1) body s (.stopped fault last)) :
      Runs position (.loop body rest) s (.stopped fault last)

-- A run without an end. Some loop is run again forever, or holds such a loop.
coinductive Diverges : Nat → LoopTree → Workspace → Prop where
  | plain {position c isPlain rest s next} (happly : s.apply position c = .ok next)
      (hrest : Diverges (position + 1) rest next) : Diverges position (.plain c isPlain rest) s
  | leave {position body rest s} (hzero : s.current = 0)
      (hrest : Diverges (position + 1 + body.text.length + 1) rest s) :
      Diverges position (.loop body rest) s
  | inside {position body rest s} (hzero : s.current ≠ 0)
      (hbody : Diverges (position + 1) body s) : Diverges position (.loop body rest) s
  | again {position body rest s next} (hzero : s.current ≠ 0)
      (hbody : Runs (position + 1) body s (.finished next))
      (hloop : Diverges position (.loop body rest) next) : Diverges position (.loop body rest) s

variable {position : Nat} {tree : LoopTree} {s : Workspace} {ending other : Ending}

theorem Runs.unique (h : Runs position tree s ending) (hother : Runs position tree s other) :
    ending = other := by
  induction h generalizing other with
  | done =>
      cases hother
      rfl
  | plain happly hrest ih =>
      cases hother with
      | plain happly' hrest' =>
          rw [happly] at happly'
          cases happly'
          exact ih hrest'
      | fault happly' =>
          rw [happly] at happly'
          cases happly'
  | fault happly =>
      cases hother with
      | plain happly' hrest' =>
          rw [happly] at happly'
          cases happly'
      | fault happly' =>
          rw [happly] at happly'
          cases happly'
          rfl
  | leave hzero hrest ih =>
      cases hother with
      | leave _ hrest' => exact ih hrest'
      | again hne => exact absurd hzero hne
      | stop hne => exact absurd hzero hne
  | again hne hbody hloop ihBody ihLoop =>
      cases hother with
      | leave hzero => exact absurd hzero hne
      | again _ hbody' hloop' =>
          cases ihBody hbody'
          exact ihLoop hloop'
      | stop _ hbody' => cases ihBody hbody'
  | stop hne hbody ih =>
      cases hother with
      | leave hzero => exact absurd hzero hne
      | again _ hbody' => cases ih hbody'
      | stop _ hbody' =>
          cases ih hbody'
          rfl

theorem Runs.not_diverges (h : Runs position tree s ending) : ¬Diverges position tree s := by
  induction h with
  | done =>
      intro hdiverges
      cases hdiverges
  | plain happly hrest ih =>
      intro hdiverges
      cases hdiverges with
      | plain happly' hrest' =>
          rw [happly] at happly'
          cases happly'
          exact ih hrest'
  | fault happly =>
      intro hdiverges
      cases hdiverges with
      | plain happly' hrest' =>
          rw [happly] at happly'
          cases happly'
  | leave hzero hrest ih =>
      intro hdiverges
      cases hdiverges with
      | leave _ hrest' => exact ih hrest'
      | inside hne => exact hne hzero
      | again hne => exact hne hzero
  | again hne hbody hloop ihBody ihLoop =>
      intro hdiverges
      cases hdiverges with
      | leave hzero => exact hne hzero
      | inside _ hbody' => exact ihBody hbody'
      | again _ hbody' hloop' =>
          cases hbody.unique hbody'
          exact ihLoop hloop'
  | stop hne hbody ih =>
      intro hdiverges
      cases hdiverges with
      | leave hzero => exact hne hzero
      | inside _ hbody' => exact ih hbody'
      | again _ hbody' => cases hbody.unique hbody'

-- A tree that does not run to an end runs forever: a loop that is entered again either has a body
-- without an end or goes on without an end after it.
theorem diverges_of_not_runs (h : ∀ ending, ¬Runs position tree s ending) :
    Diverges position tree s := by
  refine Diverges.coinduct (fun position tree s => ∀ ending, ¬Runs position tree s ending)
    ?_ position tree s h
  intro position tree s h
  cases tree with
  | done => exact absurd .done (h _)
  | plain c isPlain rest =>
      cases happly : s.apply position c with
      | error fault => exact absurd (.fault happly) (h _)
      | ok next =>
          refine .inl ⟨c, isPlain, rest, next, happly, ?_, rfl⟩
          intro ending hrest
          exact h ending (.plain happly hrest)
  | loop body rest =>
      by_cases hzero : s.current = 0
      · refine .inr (.inl ⟨body, rest, hzero, ?_, rfl⟩)
        intro ending hrest
        exact h ending (.leave hzero hrest)
      · by_cases hbody : ∃ ending, Runs (position + 1) body s ending
        · obtain ⟨next | ⟨fault, last⟩, hbody⟩ := hbody
          · refine .inr (.inr (.inr ⟨body, rest, next, hzero, hbody, ?_, rfl⟩))
            intro ending hloop
            exact h ending (.again hzero hbody hloop)
          · exact absurd (.stop hzero hbody) (h _)
        · refine .inr (.inr (.inl ⟨body, rest, hzero, ?_, rfl⟩))
          intro ending hends
          exact hbody ⟨ending, hends⟩

-- There is no third way for a tree: it runs to one end, or it runs forever.
theorem diverges_iff : Diverges position tree s ↔ ∀ ending, ¬Runs position tree s ending := by
  constructor
  · intro hdiverges ending hruns
    exact hruns.not_diverges hdiverges
  · exact diverges_of_not_runs

end LoopTree

end Switchboard
