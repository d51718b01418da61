import Switchboard.Proofs.Table.Index

namespace Switchboard

variable {H : Type}

open Method

namespace Catalog

theorem compile_outcome (methods : List (Method H)) (journal : Journal) :
    ((compile methods).run journal).1 =
      (MethodSet.ofMethods methods).map fun set => ofActions set.actions := by
  simp only [compile, Logged.bind_outcome, MethodSet.compile_outcome]
  rfl

theorem foldl_insert_eq_insertMany (actions : List (BoundAction H))
    (index : Std.HashMap String UInt16) :
    actions.foldl (fun index action => index.insert action.token action.id) index =
      index.insertMany (actions.map fun action => (action.token, action.id)) := by
  induction actions generalizing index with
  | nil => simp
  | cons action rest ih =>
      simp only [List.foldl_cons, List.map_cons, Std.HashMap.insertMany_cons, ih]

theorem index_ofActions (actions : Array (BoundAction H)) :
    (ofActions actions).index =
      (∅ : Std.HashMap String UInt16).insertMany
        (actions.toList.map fun action => (action.token, action.id)) := by
  rw [← foldl_insert_eq_insertMany]
  simp only [ofActions, ofEntries, Array.foldl_map, Array.foldl_toList]

variable {set : MethodSet H} {methods : List (Method H)} {token : String} {slot : Nat}

-- The row of an action holds its place as the id.
theorem getElem?_entries (h : set.Binds methods) {method : Method H}
    (hmethod : (actionsOf methods)[slot]? = some method) :
    (ofActions set.actions).entries[slot]? =
      some ⟨UInt16.ofNat slot, method.name, method.token⟩ := by
  obtain ⟨run, -, haction⟩ := h.exists_action hmethod
  simp only [ofActions, ofEntries, Array.getElem?_map, haction, Option.map_some]

-- Only the tokens of actions have an id.
theorem encode_eq_ok_iff (h : set.Binds methods) {id : UInt16} :
    (ofActions set.actions).encode token = .ok id ↔
      ∃ slot method, (actionsOf methods)[slot]? = some method ∧ method.token = token ∧
        id = UInt16.ofNat slot := by
  have hkeys : ((set.actions.toList.map fun action => (action.token, action.id)).map
      Prod.fst).Nodup := by
    rw [List.map_map]
    exact h.tokens_eq ▸ h.tokens_nodup
  have hindex : (ofActions set.actions).encode token = .ok id ↔
      (ofActions set.actions).index[token]? = some id := by
    unfold encode
    cases (ofActions set.actions).index[token]? <;> simp
  rw [hindex, index_ofActions, getElem?_insertMany_eq_some_iff hkeys, List.mem_map]
  constructor
  · rintro ⟨action, hmem, hpair⟩
    obtain ⟨slot, hslot⟩ := List.mem_iff_getElem?.mp hmem
    rw [Array.getElem?_toList] at hslot
    have hlt : slot < (actionsOf methods).length := by
      rw [← h.size_eq]
      exact (Array.getElem?_eq_some_iff.mp hslot).1
    have hmethod := List.getElem?_eq_getElem hlt
    obtain ⟨hid, htoken, -, -⟩ := h.action slot action _ hslot hmethod
    obtain ⟨rfl, rfl⟩ := Prod.mk.inj hpair
    exact ⟨slot, _, hmethod, htoken.symm, hid⟩
  · rintro ⟨slot, method, hmethod, rfl, rfl⟩
    obtain ⟨run, -, haction⟩ := h.exists_action hmethod
    rw [← Array.getElem?_toList] at haction
    exact ⟨_, List.mem_of_getElem? haction, rfl⟩

end Catalog

end Switchboard
