import Switchboard.Proofs.Catalog.Index
import Switchboard.Proofs.Table.Chain

namespace Switchboard

variable {H : Type}

open Method

namespace Table

variable {set : MethodSet H} {methods : List (Method H)} {token : String} (domain : Domain)

theorem route_eq_action_iff (h : set.Binds methods) {slot : Nat} :
    (ofMethodSet set domain).route token = .ok (.action slot) ↔
      ∃ method, (actionsOf methods)[slot]? = some method ∧ method.token = token := by
  constructor
  · intro hroute
    by_cases hsome : ∃ method ∈ actionsOf methods, method.token = token
    · obtain ⟨method, hmem, htoken⟩ := hsome
      obtain ⟨other, hother⟩ := List.mem_iff_getElem?.mp hmem
      obtain ⟨run, -, htarget⟩ := target?_action domain h hother htoken
      simp only [route, htarget, Target.route, Except.ok.injEq, Route.action.injEq] at hroute
      exact ⟨method, hroute ▸ hother, htoken⟩
    · -- without an action the token can only end in a sink
      have hnone : ∀ method ∈ actionsOf methods, method.token ≠ token := by
        intro method hmem htoken
        exact hsome ⟨method, hmem, htoken⟩
      simp only [route, target?, actionAt?_eq_none domain h hnone] at hroute
      revert hroute
      cases (ofMethodSet set domain).integerSink <;>
        cases (ofMethodSet set domain).domain.parse token <;>
        cases (ofMethodSet set domain).stringSink <;> simp [Target.route]
  · rintro ⟨method, hmethod, htoken⟩
    obtain ⟨run, -, htarget⟩ := target?_action domain h hmethod htoken
    simp only [route, htarget, Target.route]

theorem contains_iff (h : set.Binds methods) :
    (ofMethodSet set domain).contains token = true ↔
      ∃ (slot : Nat) (method : Method H),
        (actionsOf methods)[slot]? = some method ∧ method.token = token := by
  simp only [contains, Std.HashMap.contains_eq_isSome_getElem?, Option.isSome_iff_exists,
    getElem?_index_eq_some_iff domain h]

theorem methodFor?_eq_some (h : set.Binds methods) {slot : Nat} {method : Method H}
    (hmethod : (actionsOf methods)[slot]? = some method) (htoken : method.token = token) :
    (ofMethodSet set domain).methodFor? token = some method.name := by
  obtain ⟨run, -, haction⟩ := actionAt?_of_getElem? domain h hmethod htoken
  simp only [methodFor?, haction, Option.map_some]

theorem isSome_methodFor?_iff (h : set.Binds methods) :
    ((ofMethodSet set domain).methodFor? token).isSome = true ↔
      ∃ (slot : Nat) (method : Method H),
        (actionsOf methods)[slot]? = some method ∧ method.token = token := by
  constructor
  · intro hsome
    by_contra hnone
    have hall : ∀ method ∈ actionsOf methods, method.token ≠ token := by
      intro method hmem htoken
      obtain ⟨slot, hslot⟩ := List.mem_iff_getElem?.mp hmem
      exact hnone ⟨slot, method, hslot, htoken⟩
    simp [methodFor?, actionAt?_eq_none domain h hall] at hsome
  · rintro ⟨slot, method, hmethod, htoken⟩
    rw [methodFor?_eq_some domain h hmethod htoken]
    rfl

-- A method set yields a table and a catalog or neither, with the same fault. Both know the same
-- tokens, and what the table calls a slot is the id of the catalog.
theorem compile_agrees (methods : List (Method H)) (domain : Domain)
    (tableJournal catalogJournal : Journal) :
    (∀ fault, ((compile methods domain).run tableJournal).1 = .error fault ↔
      ((Catalog.compile methods).run catalogJournal).1 = .error fault) ∧
    ∀ table catalog, ((compile methods domain).run tableJournal).1 = .ok table →
      ((Catalog.compile methods).run catalogJournal).1 = .ok catalog →
      table.catalog = catalog ∧ table.size = catalog.size ∧
      ∀ token,
        (table.contains token = true ↔ ∃ slot, table.route token = .ok (.action slot)) ∧
        ((table.methodFor? token).isSome = true ↔
          ∃ slot, table.route token = .ok (.action slot)) ∧
        ((∃ id, catalog.encode token = .ok id) ↔
          ∃ slot, table.route token = .ok (.action slot)) ∧
        ∀ slot, table.route token = .ok (.action slot) →
          ∃ id name, catalog.encode token = .ok id ∧ id.toNat = slot ∧
            table.tokens[slot]? = some token ∧ table.methodFor? token = some name ∧
            table.methodAt? slot = some name ∧ catalog.idAt? slot = some id ∧
            catalog.entries[slot]? = some ⟨id, name, token⟩ := by
  simp only [compile_outcome, Catalog.compile_outcome]
  refine ⟨?_, ?_⟩
  · intro fault
    cases MethodSet.ofMethods methods <;> simp [Except.map]
  intro table catalog htable hcatalog
  cases hset : MethodSet.ofMethods methods with
  | error fault =>
      rw [hset] at htable
      cases htable
  | ok set =>
      rw [hset] at htable hcatalog
      obtain rfl := Except.ok.inj htable
      obtain rfl := Except.ok.inj hcatalog
      obtain ⟨hbinds, hlimit⟩ := MethodSet.ofMethods_binds hset
      refine ⟨rfl, by simp [size, ofMethodSet, Catalog.size, Catalog.ofActions,
        Catalog.ofEntries], ?_⟩
      intro token
      simp only [route_eq_action_iff domain hbinds]
      refine ⟨contains_iff domain hbinds, isSome_methodFor?_iff domain hbinds, ?_, ?_⟩
      · simp only [Catalog.encode_eq_ok_iff hbinds]
        constructor
        · rintro ⟨id, slot, method, hmethod, htoken, -⟩
          exact ⟨slot, method, hmethod, htoken⟩
        · rintro ⟨slot, method, hmethod, htoken⟩
          exact ⟨UInt16.ofNat slot, slot, method, hmethod, htoken, rfl⟩
      · rintro slot ⟨method, hmethod, rfl⟩
        obtain ⟨run, -, haction⟩ := hbinds.exists_action hmethod
        have hentry := Catalog.getElem?_entries hbinds hmethod
        have hslot : slot < UInt16.size := by
          have := (List.getElem?_eq_some_iff.mp hmethod).1
          simp only [catalogLimit] at hlimit
          simp only [UInt16.size]
          omega
        refine ⟨UInt16.ofNat slot, method.name, ?_, UInt16.toNat_ofNat_of_lt' hslot, ?_,
          methodFor?_eq_some domain hbinds hmethod rfl, ?_, ?_, hentry⟩
        · exact (Catalog.encode_eq_ok_iff hbinds).mpr ⟨slot, method, hmethod, rfl, rfl⟩
        · simp [tokens, ofMethodSet, haction]
        · simp [methodAt?, ofMethodSet, haction]
        · simp [Catalog.idAt?, hentry]

theorem compile_agrees_showcase :
    ∃ table catalog,
      ((compile (Handler.methods (H := Showcase)) .i32).run .nothing).1 = .ok table ∧
      ((Catalog.compile (Handler.methods (H := Showcase))).run .nothing).1 = .ok catalog ∧
      table.catalog = catalog ∧ table.route "S" = .ok (.action 2) ∧
      ∃ id, catalog.encode "S" = .ok id ∧ id.toNat = 2 := by
  have hmethods : Faultless (Handler.methods (H := Showcase)) := by decide
  obtain ⟨set, hset⟩ := MethodSet.exists_of_faultless hmethods
  have htable := compile_outcome (Handler.methods (H := Showcase)) .i32 .nothing
  have hcatalog := Catalog.compile_outcome (Handler.methods (H := Showcase)) .nothing
  rw [hset] at htable hcatalog
  refine ⟨_, _, htable, hcatalog, ?_⟩
  obtain ⟨hsame, -, htokens⟩ :=
    (compile_agrees (Handler.methods (H := Showcase)) .i32 .nothing .nothing).2 _ _ htable hcatalog
  have hroute : (ofMethodSet set .i32).route "S" = .ok (.action 2) :=
    (route_eq_action_iff .i32 (MethodSet.ofMethods_binds hset).1).mpr ⟨_, rfl, rfl⟩
  obtain ⟨id, name, hencode, hid, -⟩ := (htokens "S").2.2.2 2 hroute
  exact ⟨hsame, hroute, id, hencode, hid⟩

end Table

end Switchboard
