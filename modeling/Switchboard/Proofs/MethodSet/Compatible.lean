import Switchboard.Proofs.MethodSet.Acceptance
import Mathlib.Data.List.Perm.Basic

namespace Switchboard

variable {H : Type}

open Method

namespace Method

-- The body fits the part that the method plays. A helper needs none.
def WellBound (method : Method H) : Prop :=
  match method.role with
  | .action => ∃ run, method.binding = some (.action run)
  | .sink kind =>
      (method.binding.any fun binding => binding.fits kind) = true ∧
        method.signature.parameterCount = 1
  | .excluded | .ignored => True

-- Two methods that cannot stand in one set, in whatever order: actions that answer to one token,
-- and sinks of one kind.
def Rivals (first second : Method H) : Prop :=
  (first.role = .action ∧ second.role = .action ∧ first.token = second.token) ∨
    ∃ kind, first.role = .sink kind ∧ second.role = .sink kind

theorem Rivals.symm {first second : Method H} (h : first.Rivals second) :
    second.Rivals first := by
  rcases h with ⟨hfirst, hsecond, htoken⟩ | ⟨kind, hfirst, hsecond⟩
  · exact .inl ⟨hsecond, hfirst, htoken.symm⟩
  · exact .inr ⟨kind, hsecond, hfirst⟩

theorem any_action_iff (binding : Option (Binding H)) :
    (binding.any fun binding => binding.action?.isSome) = true ↔
      ∃ run, binding = some (.action run) := by
  cases binding with
  | none => simp
  | some binding => cases binding <;> simp [Binding.action?]

-- A fault in a method is its own, or it lies between the method and one before it.
theorem fault?_eq_none_iff (earlier : List (Method H)) (method : Method H) :
    method.fault? earlier = none ↔
      method.WellBound ∧ ∀ first ∈ earlier, ¬first.Rivals method := by
  cases hrole : method.role with
  | action =>
      have hrivals : ∀ first : Method H, first.Rivals method ↔
          first.role = .action ∧ first.token = method.token := by simp [Rivals, hrole]
      simp only [fault?, WellBound, hrole, hrivals, ← any_action_iff]
      cases hfind : (actionsOf earlier).find? fun first => first.token = method.token with
      | some first =>
          have hmem := List.mem_of_find?_eq_some hfind
          have htoken := List.find?_some hfind
          simp only [actionsOf, List.mem_filter, decide_eq_true_eq] at hmem htoken
          simp only [reduceCtorEq, false_iff, not_and, not_forall, not_not]
          exact fun _ => ⟨first, hmem.1, hmem.2, htoken⟩
      | none =>
          have hfree : ∀ first ∈ earlier, ¬(first.role = .action ∧ first.token = method.token) := by
            simpa [actionsOf] using hfind
          simp only [ite_eq_left_iff, reduceCtorEq, imp_false, not_not]
          exact ⟨fun hbody => ⟨hbody, hfree⟩, And.left⟩
  | sink kind =>
      have hrivals : ∀ first : Method H, first.Rivals method ↔
          first.name = kind.methodName := by
        intro first
        simp [Rivals, hrole, ← role_eq_sink_iff]
      simp only [fault?, WellBound, hrole, hrivals]
      by_cases hbody : (method.binding.any fun binding => binding.fits kind) = true ∧
          method.signature.parameterCount = 1
      · simp [hbody]
      · rw [if_neg hbody]
        exact iff_of_false (by simp) fun h => hbody h.1
  | excluded => simp [fault?, WellBound, Rivals, hrole]
  | ignored => simp [fault?, WellBound, Rivals, hrole]

-- A method set in which nothing is wrong, said without the order of declaration.
structure Compatible (methods : List (Method H)) : Prop where
  within_limit : (actionsOf methods).length ≤ catalogLimit
  wellBound : ∀ method ∈ methods, method.WellBound
  apart : methods.Pairwise fun first second => ¬first.Rivals second

namespace Compatible

variable {methods others : List (Method H)}

theorem perm (h : Compatible methods) (hperm : methods.Perm others) : Compatible others where
  within_limit := (hperm.filter _).length_eq ▸ h.within_limit
  wellBound method hmem := h.wellBound method (hperm.mem_iff.mpr hmem)
  apart := (hperm.pairwise_iff fun hrivals hsymm => hrivals hsymm.symm).mp h.apart

theorem sublist (h : Compatible methods) (hsub : others.Sublist methods) : Compatible others where
  within_limit := Nat.le_trans (hsub.filter _).length_le h.within_limit
  wellBound method hmem := h.wellBound method (hsub.subset hmem)
  apart := h.apart.sublist hsub

end Compatible

-- The places of a declaration see the same faults as its pairs of methods.
theorem faultAt?_eq_none_iff (methods : List (Method H)) :
    (∀ index, faultAt? methods index = none) ↔
      (∀ method ∈ methods, method.WellBound) ∧
        methods.Pairwise fun first second => ¬first.Rivals second := by
  have hplace : ∀ index (hindex : index < methods.length), faultAt? methods index = none ↔
      methods[index].WellBound ∧ ∀ first ∈ methods.take index, ¬first.Rivals methods[index] := by
    intro index hindex
    simp only [faultAt?, List.getElem?_eq_getElem hindex, Option.bind_some, fault?_eq_none_iff]
  rw [List.pairwise_iff_getElem]
  constructor
  · intro hnone
    refine ⟨?_, ?_⟩
    · intro method hmem
      obtain ⟨index, hindex, rfl⟩ := List.getElem_of_mem hmem
      exact ((hplace index hindex).mp (hnone index)).1
    · intro first second hfirst hsecond hlt
      refine ((hplace second hsecond).mp (hnone second)).2 _ ?_
      exact List.mem_take_iff_getElem.mpr ⟨first, by omega, rfl⟩
  · rintro ⟨hbound, hapart⟩ index
    by_cases hindex : index < methods.length
    · refine (hplace index hindex).mpr ⟨hbound _ (List.getElem_mem hindex), ?_⟩
      intro first hmem
      obtain ⟨place, hplace, rfl⟩ := List.mem_take_iff_getElem.mp hmem
      exact hapart place index (by omega) hindex (by omega)
    · exact faultAt?_of_length_le (Nat.not_lt.mp hindex)

end Method

namespace MethodSet

-- The loop with its claims and places accepts what is compatible, no more and no less.
theorem exists_ofMethods_iff (methods : List (Method H)) :
    (∃ set, ofMethods methods = .ok set) ↔ Compatible methods := by
  constructor
  · rintro ⟨set, hset⟩
    have hlimit := (ofMethods_binds hset).2
    rcases ofMethods_cases hlimit with ⟨-, -, -, hnone⟩ | ⟨fault, -, herror, -⟩
    · obtain ⟨hbound, hapart⟩ := (faultAt?_eq_none_iff methods).mp hnone
      exact ⟨hlimit, hbound, hapart⟩
    · rw [hset] at herror
      cases herror
  · intro h
    have hnone := (faultAt?_eq_none_iff methods).mpr ⟨h.wellBound, h.apart⟩
    exact exists_of_faultless ⟨h.within_limit, fun index _ => hnone index⟩

end MethodSet

end Switchboard
