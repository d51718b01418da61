import Switchboard.MethodSet
import Mathlib.Data.List.Nodup

namespace Switchboard

variable {H F : Type}

namespace Binding

def action? : Binding H → Option (H → Told H)
  | .action run => some run
  | _ => none

def integer? : Binding H → Option (H → Int64 → Told H)
  | .integer run => some run
  | _ => none

def text? : Binding H → Option (H → String → Told H)
  | .text run => some run
  | _ => none

def fits : SinkKind → Binding H → Bool
  | .integer, binding => binding.integer?.isSome
  | .string, binding => binding.text?.isSome

end Binding

namespace Method

theorem role_eq_sink_iff (method : Method H) (kind : SinkKind) :
    method.role = .sink kind ↔ method.name = kind.methodName := by
  have hne : integerSinkName ≠ stringSinkName := by decide
  unfold role
  cases kind with
  | integer => split_ifs <;> simp_all [SinkKind.methodName]
  | string => split_ifs <;> simp_all [SinkKind.methodName]

-- The methods that answer to a token of their own, in the order of declaration.
def actionsOf (methods : List (Method H)) : List (Method H) :=
  methods.filter fun method => method.role = .action

@[simp] theorem actionsOf_nil : actionsOf ([] : List (Method H)) = [] := rfl

theorem actionsOf_concat (methods : List (Method H)) (method : Method H) :
    actionsOf (methods ++ [method]) =
      actionsOf methods ++ if method.role = .action then [method] else [] := by
  by_cases h : method.role = .action <;> simp [actionsOf, h]

end Method

open Method

-- An owner on record is the first action that answers to the token.
def TokenClaims.Names (claims : TokenClaims) (earlier : List (Method H)) : Prop :=
  ∀ token, claims.owner? token =
    ((actionsOf earlier).find? fun first => first.token = token).map (·.name)

-- What the place of a sink tells of the methods read so far. A filled place stands for the one
-- method with the reserved name.
def BoundSink.Fills (methods : List (Method H)) (kind : SinkKind) (pick : Binding H → Option F) :
    Option (BoundSink F) → Prop
  | none => ∀ method ∈ methods, method.name ≠ kind.methodName
  | some sink => ∃ method, methods[sink.declaredAt]? = some method ∧
      method.name = kind.methodName ∧ sink.method = method.name ∧
      method.binding.bind pick = some sink.run ∧
      ∀ index other, methods[index]? = some other → other.name = kind.methodName →
        index = sink.declaredAt

-- What a set tells of the methods that it was read from. The id of an action is its place among
-- the actions, not among all methods.
structure MethodSet.Binds (set : MethodSet H) (methods : List (Method H)) : Prop where
  size_eq : set.actions.size = (actionsOf methods).length
  action : ∀ slot action method, set.actions[slot]? = some action →
    (actionsOf methods)[slot]? = some method →
    action.id = UInt16.ofNat slot ∧ action.token = method.token ∧ action.method = method.name ∧
      method.binding = some (.action action.run)
  tokens_nodup : ((actionsOf methods).map token).Nodup
  integer : BoundSink.Fills methods .integer Binding.integer? set.integerSink
  string : BoundSink.Fills methods .string Binding.text? set.stringSink

theorem getElem?_concat_eq_some {α : Type} {earlier : List α} {last found : α} {index : Nat}
    (h : (earlier ++ [last])[index]? = some found) :
    earlier[index]? = some found ∨ index = earlier.length ∧ found = last := by
  by_cases hlt : index < earlier.length
  · rw [List.getElem?_append_left hlt] at h
    exact .inl h
  · rw [List.getElem?_append_right (by omega)] at h
    obtain ⟨hzero, hlast⟩ := List.getElem?_eq_some_iff.mp h
    simp only [List.length_singleton] at hzero
    refine .inr ⟨by omega, ?_⟩
    simpa using hlast.symm

namespace BoundSink.Fills

variable {methods : List (Method H)} {kind : SinkKind} {pick : Binding H → Option F}
  {place : Option (BoundSink F)} {method : Method H}

theorem findIdx? (h : Fills methods kind pick place) :
    (methods.findIdx? fun method => method.name = kind.methodName) =
      place.map (·.declaredAt) := by
  cases place with
  | none => simpa [Fills] using h
  | some sink =>
      obtain ⟨method, hget, hname, -, -, honly⟩ := h
      obtain ⟨hlt, hget⟩ := List.getElem?_eq_some_iff.mp hget
      rw [Option.map_some, List.findIdx?_eq_some_iff_getElem]
      refine ⟨hlt, by simp [hget, hname], ?_⟩
      intro index hindex
      have hlen : index < methods.length := by omega
      have hne := honly index methods[index] (List.getElem?_eq_getElem hlen)
      simp only [decide_eq_true_eq]
      intro hname
      have := hne hname
      omega

-- A method of another name leaves the place as it is.
theorem skip (h : Fills methods kind pick place) (hname : method.name ≠ kind.methodName) :
    Fills (methods ++ [method]) kind pick place := by
  cases place with
  | none =>
      intro other hmem
      rcases List.mem_append.mp hmem with hmem | hmem
      · exact h other hmem
      · exact List.mem_singleton.mp hmem ▸ hname
  | some sink =>
      obtain ⟨found, hget, hfound, hmethod, hrun, honly⟩ := h
      refine ⟨found, ?_, hfound, hmethod, hrun, ?_⟩
      · obtain ⟨hlt, -⟩ := List.getElem?_eq_some_iff.mp hget
        rw [List.getElem?_append_left hlt, hget]
      · intro index other hother hreserved
        rcases getElem?_concat_eq_some hother with hother | ⟨-, rfl⟩
        · exact honly index other hother hreserved
        · exact absurd hreserved hname

theorem fill {run : F} (h : Fills methods kind pick none)
    (hname : method.name = kind.methodName) (hrun : method.binding.bind pick = some run) :
    Fills (methods ++ [method]) kind pick (some ⟨method.name, run, methods.length⟩) := by
  refine ⟨method, by simp, hname, rfl, hrun, ?_⟩
  intro index other hother hreserved
  rcases getElem?_concat_eq_some hother with hother | ⟨hindex, -⟩
  · exact absurd hreserved (h other (List.mem_of_getElem? hother))
  · exact hindex

end BoundSink.Fills

end Switchboard
