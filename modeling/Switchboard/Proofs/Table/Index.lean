import Switchboard.Table
import Switchboard.Proofs.MethodSet.Acceptance

namespace Switchboard

variable {H : Type}

open Method

namespace MethodSet.Binds

variable {set : MethodSet H} {methods : List (Method H)}

theorem exists_action (h : set.Binds methods) {slot : Nat} {method : Method H}
    (hmethod : (actionsOf methods)[slot]? = some method) :
    ∃ run, method.binding = some (.action run) ∧
      set.actions[slot]? = some ⟨UInt16.ofNat slot, method.token, method.name, run⟩ := by
  have hlt : slot < set.actions.size := by
    rw [h.size_eq]
    exact (List.getElem?_eq_some_iff.mp hmethod).1
  have haction := Array.getElem?_eq_getElem hlt
  obtain ⟨hid, htoken, hname, hbinding⟩ := h.action slot _ method haction hmethod
  refine ⟨set.actions[slot].run, hbinding, ?_⟩
  rw [haction, ← hid, ← htoken, ← hname]

-- What a set tells of its actions, it tells of the methods behind them.
theorem actions_map_eq {α : Type} (h : set.Binds methods) (tell : String → String → α) :
    (set.actions.toList.map fun action => tell action.token action.method) =
      (actionsOf methods).map fun method => tell method.token method.name := by
  apply List.ext_getElem?
  intro slot
  simp only [List.getElem?_map, Array.getElem?_toList]
  cases hmethod : (actionsOf methods)[slot]? with
  | none =>
      have hle := List.getElem?_eq_none_iff.mp hmethod
      rw [← h.size_eq] at hle
      simp [hle]
  | some method =>
      obtain ⟨run, -, haction⟩ := h.exists_action hmethod
      simp [haction]

-- The tokens of a set are those of its actions, so each question about where a token stands has
-- one answer for both.
theorem tokens_eq (h : set.Binds methods) :
    set.actions.toList.map (·.token) = (actionsOf methods).map token :=
  h.actions_map_eq fun token _ => token

end MethodSet.Binds

-- Under distinct keys nothing is overwritten, so an index holds what it was made from.
theorem getElem?_insertMany_eq_some_iff {V : Type} {entries : List (String × V)}
    (hnodup : (entries.map Prod.fst).Nodup) {key : String} {value : V} :
    ((∅ : Std.HashMap String V).insertMany entries)[key]? = some value ↔
      (key, value) ∈ entries := by
  have hdistinct : entries.Pairwise fun a b => (a.1 == b.1) = false := by
    simpa [List.Nodup, List.pairwise_map] using hnodup
  have hmem : ∀ {found : V}, (key, found) ∈ entries →
      ((∅ : Std.HashMap String V).insertMany entries)[key]? = some found :=
    Std.HashMap.getElem?_insertMany_list_of_mem (beq_self_eq_true key) hdistinct
  refine ⟨fun hvalue => ?_, hmem⟩
  by_cases hkey : key ∈ entries.map Prod.fst
  · obtain ⟨⟨_, found⟩, hfound, rfl⟩ := List.mem_map.mp hkey
    obtain rfl := Option.some.inj ((hmem hfound).symm.trans hvalue)
    exact hfound
  · have hcontains : (entries.map Prod.fst).contains key = false := by simpa using hkey
    rw [Std.HashMap.getElem?_insertMany_list_of_contains_eq_false hcontains] at hvalue
    simp at hvalue

namespace Table

theorem indexFrom_eq_insertMany (actions : List (BoundAction H)) (slot : Nat)
    (index : Std.HashMap String Nat) :
    indexFrom slot index actions =
      index.insertMany ((actions.map (·.token)).zipIdx slot) := by
  induction actions generalizing slot index with
  | nil => simp [indexFrom]
  | cons action rest ih =>
      simp only [indexFrom, List.map_cons, List.zipIdx_cons, Std.HashMap.insertMany_cons, ih]

variable {set : MethodSet H} {methods : List (Method H)} {token : String} {slot : Nat}

-- The hash index holds the place of every token among the actions, and nothing else.
theorem getElem?_index_eq_some_iff (domain : Domain) (h : set.Binds methods) :
    (ofMethodSet set domain).index[token]? = some slot ↔
      ∃ method, (actionsOf methods)[slot]? = some method ∧ method.token = token := by
  have hkeys : ((((actionsOf methods).map Method.token).zipIdx 0).map Prod.fst).Nodup := by
    rw [List.zipIdx_map_fst]
    exact h.tokens_nodup
  simp only [ofMethodSet, indexFrom_eq_insertMany, h.tokens_eq]
  rw [getElem?_insertMany_eq_some_iff hkeys]
  simp [List.mem_zipIdx_iff_getElem?]

theorem getElem?_index_eq_none (domain : Domain) (h : set.Binds methods)
    (hnone : ∀ method ∈ actionsOf methods, method.token ≠ token) :
    (ofMethodSet set domain).index[token]? = none := by
  rw [Option.eq_none_iff_forall_ne_some]
  intro slot hslot
  obtain ⟨method, hmethod, htoken⟩ := (getElem?_index_eq_some_iff domain h).mp hslot
  exact hnone method (List.mem_of_getElem? hmethod) htoken

theorem compile_outcome (methods : List (Method H)) (domain : Domain) (journal : Journal) :
    ((compile methods domain).run journal).1 =
      (MethodSet.ofMethods methods).map fun set => ofMethodSet set domain := by
  simp only [compile, Logged.bind_outcome, MethodSet.compile_outcome]
  cases MethodSet.ofMethods methods <;> rfl

theorem exists_of_faultless {methods : List (Method H)} (h : Faultless methods)
    (domain : Domain) (journal : Journal) :
    ∃ table, ((compile methods domain).run journal).1 = .ok table := by
  obtain ⟨set, hset⟩ := MethodSet.exists_of_faultless h
  refine ⟨ofMethodSet set domain, ?_⟩
  rw [compile_outcome, hset]
  rfl

-- A table comes from a set that binds all of its methods.
theorem exists_binds {domain : Domain} {table : Table H} {journal : Journal}
    (h : ((compile methods domain).run journal).1 = .ok table) :
    ∃ set, MethodSet.ofMethods methods = .ok set ∧ set.Binds methods ∧
      (actionsOf methods).length ≤ catalogLimit ∧ table = ofMethodSet set domain := by
  rw [compile_outcome] at h
  cases hset : MethodSet.ofMethods methods with
  | error fault =>
      rw [hset] at h
      cases h
  | ok set =>
      rw [hset] at h
      obtain ⟨hbinds, hlimit⟩ := MethodSet.ofMethods_binds hset
      exact ⟨set, rfl, hbinds, hlimit, (Except.ok.inj h).symm⟩

end Table

end Switchboard
