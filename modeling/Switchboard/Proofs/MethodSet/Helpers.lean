import Switchboard.Proofs.MethodSet.Acceptance

namespace Switchboard

variable {H F : Type}

open Method

-- A fault that points at the same methods after they have been moved.
def CompileError.relocated (place : Nat → Nat) : CompileError → CompileError
  | .duplicateSink kind first second => .duplicateSink kind (place first) (place second)
  | other => other

def BoundSink.relocated (place : Nat → Nat) (sink : BoundSink F) : BoundSink F :=
  { sink with declaredAt := place sink.declaredAt }

def MethodSet.relocated (place : Nat → Nat) (set : MethodSet H) : MethodSet H where
  actions := set.actions
  integerSink := set.integerSink.map (·.relocated place)
  stringSink := set.stringSink.map (·.relocated place)

namespace Method

-- A method that takes no part in dispatch.
def IsHelper (method : Method H) : Prop := method.role = .excluded ∨ method.role = .ignored

instance (method : Method H) : Decidable method.IsHelper := inferInstanceAs (Decidable (_ ∨ _))

-- A declaration with further methods in front of each method and behind the last one.
def spread (gaps : Nat → List (Method H)) : List (Method H) → List (Method H)
  | [] => gaps 0
  | method :: rest => gaps 0 ++ method :: spread (fun gap => gaps (gap + 1)) rest

-- Where a method stands after that.
def movedPlace (gaps : Nat → List (Method H)) : Nat → Nat
  | 0 => (gaps 0).length
  | place + 1 => movedPlace gaps place + 1 + (gaps (place + 1)).length

theorem movedPlace_succ (gaps : Nat → List (Method H)) (place : Nat) :
    movedPlace gaps (place + 1) =
      (gaps 0).length + 1 + movedPlace (fun gap => gaps (gap + 1)) place := by
  induction place with
  | zero => rfl
  | succ place ih =>
      rw [movedPlace, ih, movedPlace]
      omega

theorem getElem?_spread (gaps : Nat → List (Method H)) {methods : List (Method H)} {place : Nat}
    (h : place < methods.length) :
    (spread gaps methods)[movedPlace gaps place]? = methods[place]? := by
  induction methods generalizing gaps place with
  | nil => simp at h
  | cons method rest ih =>
      cases place with
      | zero => simp [spread, movedPlace]
      | succ place =>
          rw [movedPlace_succ, spread, List.getElem?_append_right (by omega)]
          have hplace : (gaps 0).length + 1 + movedPlace (fun gap => gaps (gap + 1)) place -
              (gaps 0).length = movedPlace (fun gap => gaps (gap + 1)) place + 1 := by omega
          rw [hplace, List.getElem?_cons_succ, List.getElem?_cons_succ]
          exact ih _ (by simpa using h)

theorem actionsOf_helpers {helpers : List (Method H)} (h : ∀ helper ∈ helpers, helper.IsHelper) :
    actionsOf helpers = [] := by
  rw [actionsOf, List.filter_eq_nil_iff]
  intro helper hmem
  rcases h helper hmem with hrole | hrole <;> simp [hrole]

theorem actionsOf_spread {gaps : Nat → List (Method H)}
    (h : ∀ gap, ∀ helper ∈ gaps gap, helper.IsHelper) (methods : List (Method H)) :
    actionsOf (spread gaps methods) = actionsOf methods := by
  induction methods generalizing gaps with
  | nil => simp [spread, actionsOf_helpers (h 0)]
  | cons method rest ih =>
      have htail := ih fun gap => h (gap + 1)
      have hfront := actionsOf_helpers (h 0)
      simp only [actionsOf] at htail hfront ⊢
      rw [spread, List.filter_append, hfront, List.nil_append, List.filter_cons, List.filter_cons,
        htail]

end Method

namespace MethodSet

variable {total index : Nat} {set : MethodSet H} {claims : TokenClaims} {place : Nat → Nat}

-- What comes of a moved declaration, if the outcome is known for the one in its old place.
def relocatedOutcome {α β : Type} (place : Nat → Nat) (move : α → β) :
    Except CompileError α → Except CompileError β
  | .ok value => .ok (move value)
  | .error fault => .error (fault.relocated place)

theorem add_helper {helper : Method H} (h : helper.IsHelper) :
    add total index helper set claims = .ok (set, claims) := by
  rcases h with hrole | hrole <;> simp only [add, hrole] <;> rfl

-- Helpers are passed over, and only the places behind them are counted on.
theorem addAll_helpers {helpers : List (Method H)} (h : ∀ helper ∈ helpers, helper.IsHelper)
    (rest : List (Method H)) :
    addAll total index (helpers ++ rest) set claims =
      addAll total (index + helpers.length) rest set claims := by
  induction helpers generalizing index with
  | nil => rfl
  | cons helper others ih =>
      rw [List.cons_append, addAll, add_helper (h helper (List.mem_cons_self ..))]
      simp only
      rw [ih fun other hmem => h other (List.mem_cons_of_mem _ hmem), List.length_cons]
      congr 1
      omega

theorem installBody_relocated {kind : SinkKind} {method : Method H} (pick : Binding H → Option F)
    (place : Nat → Nat) (sink : Option (BoundSink F)) (index : Nat) :
    installBody pick (sink.map (·.relocated place)) kind method (place index) =
      relocatedOutcome place (·.relocated place) (installBody pick sink kind method index) := by
  unfold installBody install
  cases method.binding.bind pick with
  | none => rfl
  | some run =>
      simp only
      split_ifs
      · rfl
      · cases sink <;> rfl

-- A set that was moved takes in a moved method as it did before.
theorem add_relocated (total index : Nat) (place : Nat → Nat) (method : Method H)
    (set : MethodSet H) (claims : TokenClaims) :
    add total (place index) method (set.relocated place) claims =
      relocatedOutcome place (fun next => (next.1.relocated place, next.2))
        (add total index method set claims) := by
  cases hrole : method.role with
  | action =>
      have hid : (set.relocated place).nextId? = set.nextId? := rfl
      simp only [add, hrole, TokenClaims.claim, hid]
      cases claims.owner? method.token with
      | some first => rfl
      | none =>
          cases method.binding with
          | none => rfl
          | some binding => cases binding <;> cases set.nextId? <;> rfl
  | sink kind =>
      cases kind with
      | integer =>
          rw [add_integerSink hrole, add_integerSink hrole, relocated, installBody_relocated]
          cases installBody Binding.integer? set.integerSink .integer method index <;> rfl
      | string =>
          rw [add_stringSink hrole, add_stringSink hrole, relocated, installBody_relocated]
          cases installBody Binding.text? set.stringSink .string method index <;> rfl
  | excluded =>
      simp only [add, hrole]
      rfl
  | ignored =>
      simp only [add, hrole]
      rfl

-- One pass over the methods takes all of them in as before, and only the places that it notes
-- are new.
theorem addAll_spread {gaps : Nat → List (Method H)}
    (h : ∀ gap, ∀ helper ∈ gaps gap, helper.IsHelper) {methods : List (Method H)}
    {index newIndex : Nat}
    (hplace : ∀ offset, place (index + offset) = newIndex + movedPlace gaps offset) (total : Nat)
    (set : MethodSet H) (claims : TokenClaims) :
    addAll total newIndex (spread gaps methods) (set.relocated place) claims =
      relocatedOutcome place (·.relocated place) (addAll total index methods set claims) := by
  induction methods generalizing gaps index newIndex set claims with
  | nil =>
      rw [spread, ← List.append_nil (gaps 0), addAll_helpers (h 0)]
      rfl
  | cons method rest ih =>
      have hhere : newIndex + (gaps 0).length = place index := by
        rw [← Nat.add_zero index, hplace 0]
        rfl
      rw [spread, addAll_helpers (h 0), hhere, addAll, addAll, add_relocated]
      cases add total index method set claims with
      | error fault => rfl
      | ok next =>
          simp only [relocatedOutcome]
          refine ih (fun gap => h (gap + 1)) ?_ _ _
          intro offset
          have hnext := hplace (offset + 1)
          rw [movedPlace_succ] at hnext
          rw [← hhere, Nat.add_right_comm, Nat.add_assoc, hnext]
          omega

-- Helpers in any number and at any places only move what stands behind them.
theorem ofMethods_spread {gaps : Nat → List (Method H)}
    (h : ∀ gap, ∀ helper ∈ gaps gap, helper.IsHelper) (methods : List (Method H)) :
    ofMethods (spread gaps methods) =
      relocatedOutcome (movedPlace gaps) (·.relocated (movedPlace gaps)) (ofMethods methods) := by
  simp only [ofMethods, actionCount_eq, actionsOf_spread h]
  split_ifs
  · rfl
  · exact addAll_spread h (fun offset => by simp) _ empty ∅

end MethodSet

end Switchboard
