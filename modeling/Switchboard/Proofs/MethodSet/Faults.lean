import Switchboard.Proofs.MethodSet.Binds

namespace Switchboard

variable {H F : Type}

open Method

-- What is wrong with a method that is declared after others. A contested token outweighs a missing
-- body, and a sink of the wrong shape is refused before it is compared with an earlier one.
def Method.fault? (earlier : List (Method H)) (method : Method H) : Option CompileError :=
  match method.role with
  | .action =>
      match (actionsOf earlier).find? fun first => first.token = method.token with
      | some first => some (.duplicateToken method.token first.name method.name)
      | none =>
          if method.binding.any fun binding => binding.action?.isSome then none
          else some (.unboundAction method.name)
  | .sink kind =>
      if method.binding.any (·.fits kind) ∧ method.signature.parameterCount = 1 then
        (earlier.findIdx? fun first => first.name = kind.methodName).map fun first =>
          .duplicateSink kind first earlier.length
      else some (.invalidSinkArity method.name kind method.signature.parameterCount)
  | .excluded | .ignored => none

-- The fault of the method at one place of the declaration.
def Method.faultAt? (methods : List (Method H)) (index : Nat) : Option CompileError :=
  methods[index]?.bind fun method => method.fault? (methods.take index)

namespace TokenClaims

variable {claims : TokenClaims} {earlier : List (Method H)} {method first : Method H}

theorem claim_contested (h : claims.Names earlier)
    (hfind : (actionsOf earlier).find? (fun first => first.token = method.token) = some first) :
    claims.claim method = .error (.duplicateToken method.token first.name method.name) := by
  have howner := h method.token
  rw [hfind, Option.map_some] at howner
  simp only [claim, howner]

theorem claim_free (h : claims.Names earlier) (hrole : method.role = .action)
    (hfind : (actionsOf earlier).find? (fun first => first.token = method.token) = none) :
    ∃ next, claims.claim method = .ok next ∧ next.Names (earlier ++ [method]) := by
  have howner := h method.token
  rw [hfind, Option.map_none] at howner
  refine ⟨⟨claims.owners.insert method.token method.name⟩, by simp only [claim, howner], ?_⟩
  intro token
  rw [actionsOf_concat, if_pos hrole, List.find?_append]
  by_cases htoken : method.token = token
  · subst htoken
    simp [owner?, hfind]
  · have hother := h token
    simp only [owner?] at hother
    simp [owner?, Std.HashMap.getElem?_insert, htoken, hother]

theorem Names.empty : Names (H := H) ∅ [] := fun _ => Std.HashMap.getElem?_empty

theorem Names.skip (h : claims.Names earlier) (hrole : method.role ≠ .action) :
    claims.Names (earlier ++ [method]) := by
  intro token
  rw [actionsOf_concat, if_neg hrole, List.append_nil]
  exact h token

end TokenClaims

namespace MethodSet

variable {set : MethodSet H} {claims : TokenClaims} {earlier : List (Method H)}
  {method : Method H} {total : Nat}

theorem Binds.empty : (MethodSet.empty : MethodSet H).Binds [] where
  size_eq := rfl
  action := by simp
  tokens_nodup := by simp
  integer := by simp [BoundSink.Fills, MethodSet.empty]
  string := by simp [BoundSink.Fills, MethodSet.empty]

-- An action has no reserved name, and a sink has only its own.
theorem name_ne_of_role {role : Role} (hrole : method.role = role) {kind : SinkKind}
    (hne : role ≠ .sink kind) : method.name ≠ kind.methodName := by
  intro hname
  exact hne (hrole ▸ (role_eq_sink_iff method kind).mpr hname)

theorem Binds.skip (h : set.Binds earlier) (haction : method.role ≠ .action)
    (hsink : ∀ kind, method.role ≠ .sink kind) : set.Binds (earlier ++ [method]) where
  size_eq := by simpa [actionsOf_concat, haction] using h.size_eq
  action := by simpa [actionsOf_concat, haction] using h.action
  tokens_nodup := by simpa [actionsOf_concat, haction] using h.tokens_nodup
  integer := h.integer.skip (name_ne_of_role rfl (hsink .integer))
  string := h.string.skip (name_ne_of_role rfl (hsink .string))

theorem Binds.push (h : set.Binds earlier) (hrole : method.role = .action) {run : H → Told H}
    (hbinding : method.binding = some (.action run))
    (hfind : (actionsOf earlier).find? (fun first => first.token = method.token) = none) :
    let action : BoundAction H :=
      ⟨UInt16.ofNat set.actions.size, method.token, method.name, run⟩
    Binds { set with actions := set.actions.push action } (earlier ++ [method]) where
  size_eq := by simp [actionsOf_concat, hrole, h.size_eq]
  action := by
    intro slot action found haction hfound
    rw [actionsOf_concat, if_pos hrole] at hfound
    rw [Array.getElem?_push] at haction
    rcases getElem?_concat_eq_some hfound with hfound | ⟨hslot, rfl⟩
    · have hlt := (List.getElem?_eq_some_iff.mp hfound).1
      rw [if_neg (by have := h.size_eq; omega)] at haction
      exact h.action slot action found haction hfound
    · rw [if_pos (by rw [hslot, h.size_eq])] at haction
      obtain rfl := Option.some.inj haction
      exact ⟨by rw [hslot, h.size_eq], rfl, rfl, hbinding⟩
  tokens_nodup := by
    rw [actionsOf_concat, if_pos hrole, List.map_append, List.nodup_append]
    refine ⟨h.tokens_nodup, by simp, ?_⟩
    intro token hmem other hother heq
    obtain ⟨first, hfirst, rfl⟩ := List.mem_map.mp hmem
    have := List.find?_eq_none.mp hfind first hfirst
    simp_all
  integer := h.integer.skip (name_ne_of_role hrole (by simp))
  string := h.string.skip (name_ne_of_role hrole (by simp))

-- The two sinks are taken in alike. Only the shape of the body that each can call differs.
def installBody (pick : Binding H → Option F) (place : Option (BoundSink F)) (kind : SinkKind)
    (method : Method H) (index : Nat) : Except CompileError (BoundSink F) :=
  match method.binding.bind pick with
  | some run => install place kind method run index
  | none => .error (invalidSink method kind)

theorem add_integerSink (hrole : method.role = .sink .integer) (index : Nat) :
    add total index method set claims =
      (installBody Binding.integer? set.integerSink .integer method index).map fun sink =>
        ({ set with integerSink := some sink }, claims) := by
  simp only [add, hrole, installBody]
  cases hbinding : method.binding with
  | none => rfl
  | some binding => cases binding <;> rfl

theorem add_stringSink (hrole : method.role = .sink .string) (index : Nat) :
    add total index method set claims =
      (installBody Binding.text? set.stringSink .string method index).map fun sink =>
        ({ set with stringSink := some sink }, claims) := by
  simp only [add, hrole, installBody]
  cases hbinding : method.binding with
  | none => rfl
  | some binding => cases binding <;> rfl

section Sink

variable {kind : SinkKind} {pick : Binding H → Option F} {place : Option (BoundSink F)}

theorem any_fits (hpick : ∀ binding, Binding.fits kind binding = (pick binding).isSome) :
    (method.binding.any fun binding => binding.fits kind) = (method.binding.bind pick).isSome := by
  cases method.binding with
  | none => rfl
  | some binding => simpa using hpick binding

theorem installBody_fault (hpick : ∀ binding, Binding.fits kind binding = (pick binding).isSome)
    (hplace : BoundSink.Fills earlier kind pick place) (hrole : method.role = .sink kind)
    {fault : CompileError} (hfault : method.fault? earlier = some fault) :
    installBody pick place kind method earlier.length = .error fault := by
  simp only [fault?, hrole, any_fits hpick] at hfault
  unfold installBody install
  cases hbody : method.binding.bind pick with
  | none => simpa [hbody, invalidSink] using hfault
  | some run =>
      by_cases hcount : method.signature.parameterCount = 1
      · simp only [hbody, hcount, Option.isSome_some, and_self, ite_true, hplace.findIdx?] at hfault
        cases place with
        | none => simp at hfault
        | some sink => simpa [hcount] using hfault
      · simpa [hbody, hcount, invalidSink] using hfault

theorem installBody_ok (hpick : ∀ binding, Binding.fits kind binding = (pick binding).isSome)
    (hplace : BoundSink.Fills earlier kind pick place) (hrole : method.role = .sink kind)
    (hfault : method.fault? earlier = none) :
    ∃ sink, installBody pick place kind method earlier.length = .ok sink ∧
      BoundSink.Fills (earlier ++ [method]) kind pick (some sink) := by
  have hname := (role_eq_sink_iff method kind).mp hrole
  simp only [fault?, hrole, any_fits hpick] at hfault
  cases hbody : method.binding.bind pick with
  | none => simp [hbody] at hfault
  | some run =>
      by_cases hcount : method.signature.parameterCount = 1
      · simp only [hbody, hcount, Option.isSome_some, and_self, ite_true, hplace.findIdx?] at hfault
        cases place with
        | none =>
            refine ⟨⟨method.name, run, earlier.length⟩, ?_, hplace.fill hname hbody⟩
            simp [installBody, install, hbody, hcount]
        | some sink => simp at hfault
      · simp [hcount] at hfault

end Sink

-- What taking in one more method preserves. The id is never missing, since the actions were
-- counted before.
theorem add_fault (hset : set.Binds earlier) (hclaims : claims.Names earlier)
    {fault : CompileError} (hfault : method.fault? earlier = some fault) :
    add total earlier.length method set claims = .error fault := by
  cases hrole : method.role with
  | action =>
      simp only [fault?, hrole] at hfault
      cases hfind : (actionsOf earlier).find? fun first => first.token = method.token with
      | some first =>
          simp only [hfind, Option.some.injEq] at hfault
          simp only [add, hrole, TokenClaims.claim_contested hclaims hfind, ← hfault]
          rfl
      | none =>
          obtain ⟨next, hclaim, -⟩ := TokenClaims.claim_free hclaims hrole hfind
          simp only [hfind] at hfault
          split_ifs at hfault with hbody
          obtain rfl := Option.some.inj hfault
          simp only [add, hrole, hclaim]
          cases hbinding : method.binding with
          | none => rfl
          | some binding =>
              cases binding with
              | action run => simp [hbinding, Binding.action?] at hbody
              | integer run => rfl
              | text run => rfl
  | sink kind =>
      cases kind with
      | integer =>
          rw [add_integerSink hrole, installBody_fault (fun _ => rfl) hset.integer hrole hfault]
          rfl
      | string =>
          rw [add_stringSink hrole, installBody_fault (fun _ => rfl) hset.string hrole hfault]
          rfl
  | excluded => simp [fault?, hrole] at hfault
  | ignored => simp [fault?, hrole] at hfault

theorem add_ok (total : Nat) (hset : set.Binds earlier) (hclaims : claims.Names earlier)
    (hlimit : (actionsOf (earlier ++ [method])).length ≤ catalogLimit)
    (hfault : method.fault? earlier = none) :
    ∃ next nextClaims, add total earlier.length method set claims = .ok (next, nextClaims) ∧
      next.Binds (earlier ++ [method]) ∧ nextClaims.Names (earlier ++ [method]) := by
  cases hrole : method.role with
  | action =>
      simp only [fault?, hrole] at hfault
      cases hfind : (actionsOf earlier).find? fun first => first.token = method.token with
      | some first => simp [hfind] at hfault
      | none =>
          obtain ⟨next, hclaim, hnames⟩ := TokenClaims.claim_free hclaims hrole hfind
          obtain ⟨run, hbinding⟩ : ∃ run, method.binding = some (.action run) := by
            simp only [hfind] at hfault
            cases hbinding : method.binding with
            | none => simp [hbinding] at hfault
            | some binding => cases binding <;> simp_all [Binding.action?]
          have hsize : set.actions.size < catalogLimit := by
            simp only [actionsOf_concat, hrole, ite_true, List.length_append,
              List.length_singleton] at hlimit
            have := hset.size_eq
            omega
          refine ⟨_, next, ?_, hset.push hrole hbinding hfind, hnames⟩
          simp only [add, hrole, hclaim, hbinding, nextId?, if_pos hsize]
          rfl
  | sink kind =>
      have hnames : claims.Names (earlier ++ [method]) := hclaims.skip (by simp [hrole])
      have hactions : actionsOf (earlier ++ [method]) = actionsOf earlier := by
        simp [actionsOf_concat, hrole]
      cases kind with
      | integer =>
          obtain ⟨sink, hinstall, hfills⟩ :=
            installBody_ok (fun _ => rfl) hset.integer hrole hfault
          refine ⟨{ set with integerSink := some sink }, claims, ?_, ?_, hnames⟩
          · rw [add_integerSink hrole, hinstall]
            rfl
          · exact {
              size_eq := hactions ▸ hset.size_eq
              action := hactions ▸ hset.action
              tokens_nodup := hactions ▸ hset.tokens_nodup
              integer := hfills
              string := hset.string.skip (name_ne_of_role hrole (by simp)) }
      | string =>
          obtain ⟨sink, hinstall, hfills⟩ :=
            installBody_ok (fun _ => rfl) hset.string hrole hfault
          refine ⟨{ set with stringSink := some sink }, claims, ?_, ?_, hnames⟩
          · rw [add_stringSink hrole, hinstall]
            rfl
          · exact {
              size_eq := hactions ▸ hset.size_eq
              action := hactions ▸ hset.action
              tokens_nodup := hactions ▸ hset.tokens_nodup
              integer := hset.integer.skip (name_ne_of_role hrole (by simp))
              string := hfills }
  | excluded =>
      refine ⟨set, claims, ?_, hset.skip (by simp [hrole]) (by simp [hrole]),
        hclaims.skip (by simp [hrole])⟩
      simp only [add, hrole]
      rfl
  | ignored =>
      refine ⟨set, claims, ?_, hset.skip (by simp [hrole]) (by simp [hrole]),
        hclaims.skip (by simp [hrole])⟩
      simp only [add, hrole]
      rfl

end MethodSet

end Switchboard
