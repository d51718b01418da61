import Switchboard.Proofs.Catalog.Index

namespace Switchboard

variable {H : Type}

open Method

namespace Catalog

variable {set : MethodSet H} {methods : List (Method H)} {token : String}

theorem exists_binds {catalog : Catalog} {journal : Journal}
    (h : ((compile methods).run journal).1 = .ok catalog) :
    ∃ set : MethodSet H, set.Binds methods ∧ (actionsOf methods).length ≤ catalogLimit ∧
      catalog = ofActions set.actions := by
  rw [compile_outcome] at h
  cases hset : MethodSet.ofMethods methods with
  | error fault =>
      rw [hset] at h
      cases h
  | ok set =>
      rw [hset] at h
      obtain ⟨hbinds, hlimit⟩ := MethodSet.ofMethods_binds hset
      exact ⟨set, hbinds, hlimit, (Except.ok.inj h).symm⟩

-- There are two answers to a token and two to an id.
theorem encode_eq_error_iff {catalog : Catalog} :
    catalog.encode token = .error (.unknownToken token) ↔ ∀ id, catalog.encode token ≠ .ok id := by
  unfold encode
  cases catalog.index[token]? <;> simp

theorem decode_eq_error_iff {catalog : Catalog} {id : UInt16} :
    catalog.decode id = .error (.unknownId id) ↔ ∀ token, catalog.decode id ≠ .ok token := by
  unfold decode
  cases catalog.entries[id.toNat]? <;> simp

section Codes

variable (h : set.Binds methods)

include h

theorem decode_eq_ok_iff {id : UInt16} :
    (ofActions set.actions).decode id = .ok token ↔
      ((actionsOf methods).map Method.token)[id.toNat]? = some token := by
  rw [List.getElem?_map]
  unfold decode
  cases hmethod : (actionsOf methods)[id.toNat]? with
  | some method => simp [getElem?_entries h hmethod]
  | none =>
      have hsize : set.actions.size ≤ id.toNat := h.size_eq ▸ List.getElem?_eq_none_iff.mp hmethod
      have hentry : (ofActions set.actions).entries[id.toNat]? = none := by
        simpa [ofActions, ofEntries] using hsize
      simp [hentry]

-- An id has room for every place, so the codes of a token are the places where it stands.
theorem encode_eq_ok_iff_getElem? (hlimit : (actionsOf methods).length ≤ catalogLimit)
    {id : UInt16} : (ofActions set.actions).encode token = .ok id ↔
      ((actionsOf methods).map Method.token)[id.toNat]? = some token := by
  simp only [encode_eq_ok_iff h, List.getElem?_map, Option.map_eq_some_iff]
  constructor
  · rintro ⟨slot, method, hmethod, htoken, rfl⟩
    have hslot : slot < UInt16.size := by
      have hlength := (List.getElem?_eq_some_iff.mp hmethod).1
      exact Nat.lt_of_lt_of_le hlength hlimit
    rw [UInt16.toNat_ofNat_of_lt' hslot]
    exact ⟨method, hmethod, htoken⟩
  · rintro ⟨method, hmethod, htoken⟩
    exact ⟨id.toNat, method, hmethod, htoken, UInt16.ofNat_toNat.symm⟩

end Codes

-- The tokens of the actions and the numbers below their count stand for each other, up to a set
-- that takes all ids. What is no token of an action has no id, and an id that was not given out
-- has no token.
theorem codes_biject {methods : List (Method H)} {catalog : Catalog} {journal : Journal}
    (h : ((compile methods).run journal).1 = .ok catalog) :
    let tokens := (actionsOf methods).map Method.token
    tokens.length ≤ 65536 ∧
    (∀ token, (∃ id, catalog.encode token = .ok id) ↔ token ∈ tokens) ∧
    (∀ token other id, catalog.encode token = .ok id → catalog.encode other = .ok id →
      token = other) ∧
    (∀ place token, tokens[place]? = some token →
      ∃ id, catalog.encode token = .ok id ∧ id.toNat = place ∧ catalog.decode id = .ok token) ∧
    (∀ id, ((∃ token, catalog.decode id = .ok token) ↔ id.toNat < tokens.length) ∧
      (∀ token, catalog.decode id = .ok token → catalog.encode token = .ok id) ∧
      (tokens.length ≤ id.toNat → catalog.decode id = .error (.unknownId id))) ∧
    (∀ token, token ∉ tokens → catalog.encode token = .error (.unknownToken token)) ∧
    ∀ others : List (Method H), (actionsOf others).length ≤ 65536 → ∀ total actions limit,
      MethodSet.addAll total 0 others .empty ∅ ≠ .error (.catalogOverflow actions limit) := by
  intro tokens
  obtain ⟨set, hset, hlimit, rfl⟩ := exists_binds h
  have hencode : ∀ token id, (ofActions set.actions).encode token = .ok id ↔
      tokens[id.toNat]? = some token := fun _ _ => encode_eq_ok_iff_getElem? hset hlimit
  have hdecode : ∀ token id, (ofActions set.actions).decode id = .ok token ↔
      tokens[id.toNat]? = some token := fun _ _ => decode_eq_ok_iff hset
  have hlength : tokens.length ≤ UInt16.size := by
    rw [List.length_map]
    exact hlimit
  have hplace : ∀ place token, tokens[place]? = some token →
      ∃ id : UInt16, id.toNat = place ∧ tokens[id.toNat]? = some token := by
    intro place token htoken
    have hlt : place < UInt16.size := by
      have := (List.getElem?_eq_some_iff.mp htoken).1
      omega
    refine ⟨UInt16.ofNat place, UInt16.toNat_ofNat_of_lt' hlt, ?_⟩
    rw [UInt16.toNat_ofNat_of_lt' hlt, htoken]
  have hknown : ∀ token, (∃ id, (ofActions set.actions).encode token = .ok id) ↔
      token ∈ tokens := by
    intro token
    simp only [hencode, List.mem_iff_getElem?]
    constructor
    · rintro ⟨id, hid⟩
      exact ⟨id.toNat, hid⟩
    · rintro ⟨place, htoken⟩
      obtain ⟨id, -, hid⟩ := hplace place token htoken
      exact ⟨id, hid⟩
  refine ⟨hlength, hknown, ?_, ?_, ?_, ?_, ?_⟩
  · intro token other id htoken hother
    rw [hencode] at htoken hother
    exact Option.some.inj (htoken.symm.trans hother)
  · intro place token htoken
    obtain ⟨id, hid, hget⟩ := hplace place token htoken
    exact ⟨id, (hencode token id).mpr hget, hid, (hdecode token id).mpr hget⟩
  · intro id
    simp only [hdecode, hencode, decode_eq_error_iff, ne_eq]
    refine ⟨?_, fun token htoken => htoken, ?_⟩
    · constructor
      · rintro ⟨token, htoken⟩
        exact (List.getElem?_eq_some_iff.mp htoken).1
      · intro hlt
        exact ⟨tokens[id.toNat], List.getElem?_eq_getElem hlt⟩
    · intro hle token htoken
      rw [List.getElem?_eq_none hle] at htoken
      cases htoken
  · intro token hunknown
    rw [encode_eq_error_iff]
    intro id hid
    exact hunknown ((hknown token).mp ⟨id, hid⟩)
  · intro others hothers
    exact MethodSet.addAll_ne_catalogOverflow hothers

-- Every id is taken, and the last action has the last one. All actions share a name, which their
-- aliases hide.
theorem codes_biject_full :
    let last := String.ofList (List.replicate 65535 'x')
    let crowd : List (Method Nat) := (List.range 65536).map fun count =>
      (Method.action "step" (Nat.add count)).answersTo (String.ofList (List.replicate count 'x'))
    ∃ catalog, ((compile crowd).run .nothing).1 = .ok catalog ∧
      (∃ id, catalog.encode last = .ok id ∧ id.toNat = 65535 ∧ catalog.decode id = .ok last) ∧
      catalog.encode "step" = .error (.unknownToken "step") := by
  intro last crowd
  have hrole : (Method.action "step" (Nat.add 0) : Method Nat).role = .action := by decide
  have hactions : ∀ method ∈ crowd, method.role = .action := by
    intro method hmem
    obtain ⟨count, -, rfl⟩ := List.mem_map.mp hmem
    exact hrole
  have hruns : ∀ method ∈ crowd, ∃ run, method.binding = some (.action run) := by
    intro method hmem
    obtain ⟨count, -, rfl⟩ := List.mem_map.mp hmem
    exact ⟨_, rfl⟩
  have htokens : crowd.map Method.token =
      (List.range 65536).map fun count => String.ofList (List.replicate count 'x') := by
    rw [List.map_map]
    rfl
  have hnodup : (crowd.map Method.token).Nodup := by
    rw [htokens]
    refine List.nodup_range.map ?_
    intro count other hsame
    simpa using congrArg (fun text => text.toList.length) hsame
  have hfaultless := faultless_of_actions (by simp [crowd, catalogLimit]) hactions hruns hnodup
  obtain ⟨set, hset⟩ := MethodSet.exists_of_faultless hfaultless
  have hcompile : ((compile crowd).run .nothing).1 = .ok (ofActions set.actions) := by
    rw [compile_outcome, hset]
    rfl
  have hall : (actionsOf crowd).map Method.token =
      (List.range 65536).map fun count => String.ofList (List.replicate count 'x') := by
    rw [← htokens, actionsOf, List.filter_eq_self.mpr (by simpa using hactions)]
  obtain ⟨-, -, -, hplace, -, hunknown, -⟩ := codes_biject hcompile
  rw [hall] at hplace hunknown
  refine ⟨_, hcompile, hplace 65535 last ?_, hunknown "step" ?_⟩
  · rw [List.getElem?_map, List.getElem?_range (by decide)]
    rfl
  intro hmem
  obtain ⟨count, -, hcount⟩ := List.mem_map.mp hmem
  have hletter : 's' ∈ List.replicate count 'x' := by
    rw [← String.toList_ofList (l := List.replicate count 'x'), hcount]
    decide
  simpa using List.eq_of_mem_replicate hletter

end Catalog

end Switchboard
