import Switchboard.Proofs.Catalog.Codec
import Switchboard.Proofs.MethodSet.Compatible
import Switchboard.Proofs.Table.Agreement
import Mathlib.Data.Set.Function
import Mathlib.Order.Interval.Set.Defs

namespace Switchboard

variable {H : Type}

open Method

-- The same branch of the chain, with the slots of actions counted in another way.
def Route.renumbered (slots : Nat → Nat) : Route → Route
  | .action slot => .action (slots slot)
  | .integer value => .integer value
  | .text => .text

@[simp] theorem Route.renumbered_id : Route.renumbered id = id := by
  funext route
  cases route <;> rfl

-- The same method with the same argument, with the slots of actions counted in another way.
def Target.renumbered (slots : Nat → Nat) : Target H → Target H
  | .action slot run => .action (slots slot) run
  | .integer value run => .integer value run
  | .text run => .text run

namespace Target

variable {slots : Nat → Nat} {target : Target H}

@[simp] theorem route_renumbered :
    (target.renumbered slots).route = target.route.renumbered slots := by
  cases target <;> rfl

@[simp] theorem invoke_renumbered (token : String) (handler : H) :
    (target.renumbered slots).invoke token handler = target.invoke token handler := by
  cases target <;> rfl

end Target

-- What was distinct in one order has one place in any other order.
theorem exists_places_of_perm {α : Type} {items others : List α} (hnodup : items.Nodup)
    (hperm : items.Perm others) :
    ∃ places : Nat → Nat, Set.BijOn places (Set.Iio items.length) (Set.Iio others.length) ∧
      ∀ place < items.length, others[places place]? = items[place]? := by
  have hplace : ∀ place < items.length, ∃ other : Nat, others[other]? = items[place]? := by
    intro place hlt
    rw [List.getElem?_eq_getElem hlt]
    exact List.mem_iff_getElem?.mp (hperm.subset (List.getElem_mem hlt))
  choose! places hplaces using hplace
  refine ⟨places, ⟨?_, ?_, ?_⟩, hplaces⟩
  · intro place hlt
    have hget := hplaces place hlt
    rw [List.getElem?_eq_getElem hlt] at hget
    exact (List.getElem?_eq_some_iff.mp hget).1
  · intro first hfirst second hsecond hsame
    have hget := hplaces first hfirst
    rw [hsame, hplaces second hsecond] at hget
    exact ((List.getElem?_inj hsecond hnodup).mp hget).symm
  · intro other hlt
    obtain ⟨place, hplace⟩ :=
      List.mem_iff_getElem?.mp (hperm.symm.subset (List.getElem_mem hlt))
    have hin : place < items.length := (List.getElem?_eq_some_iff.mp hplace).1
    refine ⟨place, hin, ?_⟩
    have hget := hplaces place hin
    rw [hplace, ← List.getElem?_eq_getElem hlt] at hget
    exact ((List.getElem?_inj hlt (hperm.nodup hnodup)).mp hget.symm).symm

-- A token is that of an action with a slot, or of none.
theorem Method.exists_slot_or_free (methods : List (Method H)) (token : String) :
    (∃ (slot : Nat) (method : Method H),
      (actionsOf methods)[slot]? = some method ∧ method.token = token) ∨
    ∀ method ∈ actionsOf methods, method.token ≠ token := by
  by_cases hsome : ∃ method ∈ actionsOf methods, method.token = token
  · obtain ⟨method, hmem, htoken⟩ := hsome
    obtain ⟨slot, hslot⟩ := List.mem_iff_getElem?.mp hmem
    exact .inl ⟨slot, method, hslot, htoken⟩
  · exact .inr fun method hmem htoken => hsome ⟨method, hmem, htoken⟩

namespace MethodSet.Binds

variable {set : MethodSet H} {methods : List (Method H)}

theorem actions_nodup (h : set.Binds methods) : (actionsOf methods).Nodup :=
  h.tokens_nodup.of_map _

end MethodSet.Binds

-- Which body a place holds is decided by the methods with the reserved name alone.
theorem BoundSink.Fills.map_run_eq {F : Type} {methods others : List (Method H)} {kind : SinkKind}
    {pick : Binding H → Option F} {place other : Option (BoundSink F)}
    (h : Fills methods kind pick place) (hother : Fills others kind pick other)
    (hsame : ∀ method : Method H, method.name = kind.methodName →
      (method ∈ others ↔ method ∈ methods)) :
    other.map (·.run) = place.map (·.run) := by
  cases place with
  | none =>
      have hnone : ∀ method ∈ others, method.name ≠ kind.methodName :=
        fun method hmem hname => h method ((hsame method hname).mp hmem) hname
      rw [hother.eq_none hnone]
  | some sink =>
      obtain ⟨method, hget, hname, -, hrun, -⟩ := h
      have hmem := (hsame method hname).mpr (List.mem_of_getElem? hget)
      obtain ⟨found, rfl, hfound⟩ := hother.exists_run hmem hname
      rw [hrun] at hfound
      simp only [Option.map_some, Option.some.inj hfound]

namespace Table

variable {set other : MethodSet H} {methods others : List (Method H)} {token : String}
  {slots : Nat → Nat} (domain : Domain)

-- Where no action answers, only the bodies of the two sinks count.
theorem target?_sinks (h : set.Binds methods)
    (hnone : ∀ method ∈ actionsOf methods, method.token ≠ token) :
    (ofMethodSet set domain).target? token =
      ((set.integerSink.map (·.run)).bind fun run =>
        (domain.parse token).map fun value => Target.integer value run).or
          ((set.stringSink.map (·.run)).map .text) := by
  simp only [target?, actionAt?_eq_none domain h hnone]
  simp only [ofMethodSet]
  cases set.integerSink <;> cases domain.parse token <;> simp [Function.comp_def]

-- Two tables lead a token to the same method if the same action answers to it, or none, and if
-- the same methods have the reserved names.
theorem target?_renumbered (h : set.Binds methods) (hother : other.Binds others)
    (hactions : ∀ slot method, (actionsOf methods)[slot]? = some method → method.token = token →
      (actionsOf others)[slots slot]? = some method)
    (hnone : (∀ method ∈ actionsOf methods, method.token ≠ token) →
      ∀ method ∈ actionsOf others, method.token ≠ token)
    (hsinks : ∀ kind (method : Method H), method.name = SinkKind.methodName kind →
      (method ∈ others ↔ method ∈ methods)) :
    (ofMethodSet other domain).target? token =
      ((ofMethodSet set domain).target? token).map (·.renumbered slots) := by
  rcases exists_slot_or_free methods token with ⟨slot, method, hslot, htoken⟩ | hfree
  · obtain ⟨run, hrun, htarget⟩ := target?_action domain h hslot htoken
    obtain ⟨same, hsame, htarget'⟩ :=
      target?_action domain hother (hactions slot method hslot htoken) htoken
    rw [hrun] at hsame
    cases hsame
    rw [htarget, htarget']
    rfl
  · have hinteger := h.integer.map_run_eq hother.integer (hsinks .integer)
    have hstring := h.string.map_run_eq hother.string (hsinks .string)
    rw [target?_sinks domain h hfree, target?_sinks domain hother (hnone hfree), hinteger, hstring]
    cases set.integerSink <;> cases set.stringSink <;> cases domain.parse token <;> rfl

theorem route_renumbered {table other : Table H}
    (h : other.target? token = (table.target? token).map (·.renumbered slots)) :
    other.route token = (table.route token).map (Route.renumbered slots) := by
  simp only [route, h]
  cases table.target? token <;> simp [Except.map]

theorem dispatch_renumbered {table other : Table H}
    (h : other.target? token = (table.target? token).map (·.renumbered slots)) (handler : H)
    (journal : Journal) :
    ((other.dispatch handler token).run journal).1 =
      ((((table.dispatch handler token).run journal).1.1.map (Route.renumbered slots)),
        ((table.dispatch handler token).run journal).1.2) := by
  simp only [dispatch_outcome, h]
  cases table.target? token <;> simp [Except.map]

theorem methodFor?_congr (h : set.Binds methods) (hother : other.Binds others)
    (hactions : ∀ method : Method H, method.token = token →
      (method ∈ actionsOf others ↔ method ∈ actionsOf methods)) :
    (ofMethodSet other domain).methodFor? token = (ofMethodSet set domain).methodFor? token := by
  rcases exists_slot_or_free methods token with ⟨slot, method, hslot, htoken⟩ | hfree
  · have hmem := (hactions method htoken).mpr (List.mem_of_getElem? hslot)
    obtain ⟨place, hplace⟩ := List.mem_iff_getElem?.mp hmem
    rw [methodFor?_eq_some domain h hslot htoken, methodFor?_eq_some domain hother hplace htoken]
  · have hfree' : ∀ method ∈ actionsOf others, method.token ≠ token :=
      fun method hmem htoken => hfree method ((hactions method htoken).mp hmem) htoken
    simp only [methodFor?, actionAt?_eq_none domain h hfree,
      actionAt?_eq_none domain hother hfree']

theorem exists_compile_iff (methods : List (Method H)) (domain : Domain) (journal : Journal) :
    (∃ table, ((compile methods domain).run journal).1 = .ok table) ↔ Compatible methods := by
  rw [← MethodSet.exists_ofMethods_iff, compile_outcome]
  cases MethodSet.ofMethods methods <;> simp [Except.map]

end Table

namespace Catalog

theorem exists_compile_iff (methods : List (Method H)) (journal : Journal) :
    (∃ catalog, ((compile methods).run journal).1 = .ok catalog) ↔ Compatible methods := by
  rw [← MethodSet.exists_ofMethods_iff, compile_outcome]
  cases MethodSet.ofMethods methods <;> simp [Except.map]

-- A token has an id when it is that of an action.
theorem exists_encode_iff {set : MethodSet H} {methods : List (Method H)} {token : String}
    (h : set.Binds methods) : (∃ id, (ofActions set.actions).encode token = .ok id) ↔
      ∃ method ∈ actionsOf methods, method.token = token := by
  simp only [encode_eq_ok_iff h]
  constructor
  · rintro ⟨id, slot, method, hmethod, htoken, -⟩
    exact ⟨method, List.mem_of_getElem? hmethod, htoken⟩
  · rintro ⟨method, hmem, htoken⟩
    obtain ⟨slot, hslot⟩ := List.mem_iff_getElem?.mp hmem
    exact ⟨UInt16.ofNat slot, slot, method, hslot, htoken, rfl⟩

end Catalog

namespace Table

-- The order of declaration names the slots of the actions and nothing else. Another order is
-- accepted alike, and every token calls the same method as before.
theorem compile_forgets_order {methods others : List (Method H)} (hperm : methods.Perm others)
    (domain : Domain) (journal : Journal) :
    ((∃ table, ((compile methods domain).run journal).1 = .ok table) ↔
      ∃ other, ((compile others domain).run journal).1 = .ok other) ∧
    ((∃ catalog, ((Catalog.compile methods).run journal).1 = .ok catalog) ↔
      ∃ other, ((Catalog.compile others).run journal).1 = .ok other) ∧
    (∀ table other, ((compile methods domain).run journal).1 = .ok table →
      ((compile others domain).run journal).1 = .ok other →
      ∃ slots : Nat → Nat, Set.BijOn slots (Set.Iio table.size) (Set.Iio other.size) ∧
        (∀ slot < table.size, (actionsOf others)[slots slot]? = (actionsOf methods)[slot]?) ∧
        ∀ token,
          other.target? token = (table.target? token).map (·.renumbered slots) ∧
          other.route token = (table.route token).map (Route.renumbered slots) ∧
          other.methodFor? token = table.methodFor? token ∧
          ∀ handler listener,
            let answer := ((table.dispatch handler token).run listener).1
            ((other.dispatch handler token).run listener).1 =
              (answer.1.map (Route.renumbered slots), answer.2)) ∧
    ∀ catalog other, ((Catalog.compile methods).run journal).1 = .ok catalog →
      ((Catalog.compile others).run journal).1 = .ok other →
      ∀ token, (∃ id, other.encode token = .ok id) ↔ ∃ id, catalog.encode token = .ok id := by
  have haccept : Compatible methods ↔ Compatible others :=
    ⟨fun h => h.perm hperm, fun h => h.perm hperm.symm⟩
  have hactions : (actionsOf methods).Perm (actionsOf others) := hperm.filter _
  refine ⟨?_, ?_, ?_, ?_⟩
  · rw [exists_compile_iff, exists_compile_iff, haccept]
  · rw [Catalog.exists_compile_iff, Catalog.exists_compile_iff, haccept]
  · intro table other htable hother
    obtain ⟨set, -, hset, -, rfl⟩ := exists_binds htable
    obtain ⟨set', -, hset', -, rfl⟩ := exists_binds hother
    obtain ⟨slots, hbij, hslots⟩ := exists_places_of_perm hset.actions_nodup hactions
    have hsize : (ofMethodSet set domain).size = (actionsOf methods).length := hset.size_eq
    have hsize' : (ofMethodSet set' domain).size = (actionsOf others).length := hset'.size_eq
    refine ⟨slots, hsize ▸ hsize' ▸ hbij, hsize ▸ hslots, ?_⟩
    intro token
    have htarget : (ofMethodSet set' domain).target? token =
        ((ofMethodSet set domain).target? token).map (·.renumbered slots) := by
      refine target?_renumbered domain hset hset' ?_ ?_ ?_
      · intro slot method hmethod _
        rw [hslots slot (List.getElem?_eq_some_iff.mp hmethod).1, hmethod]
      · exact fun hnone method hmem => hnone method (hactions.mem_iff.mpr hmem)
      · exact fun _ method _ => hperm.mem_iff.symm
    refine ⟨htarget, route_renumbered htarget, ?_, dispatch_renumbered htarget⟩
    exact methodFor?_congr domain hset hset' fun method _ => hactions.mem_iff.symm
  · intro catalog other hcatalog hother token
    obtain ⟨set, hset, -, rfl⟩ := Catalog.exists_binds hcatalog
    obtain ⟨set', hset', -, rfl⟩ := Catalog.exists_binds hother
    simp only [Catalog.exists_encode_iff hset, Catalog.exists_encode_iff hset', hactions.mem_iff]

-- The showcase backwards, with both sinks in front of the actions.
theorem compile_forgets_order_backwards :
    let methods := Handler.methods (H := Showcase)
    methods.Perm methods.reverse ∧
    ∃ table other, ((compile methods .i8).run .nothing).1 = .ok table ∧
      ((compile methods.reverse .i8).run .nothing).1 = .ok other ∧
      ((table.dispatch ⟨[]⟩ "M").run .nothing).1 =
        (.ok (.action 0), ⟨["OK calling an instance method."]⟩) ∧
      ((other.dispatch ⟨[]⟩ "M").run .nothing).1 =
        (.ok (.action 2), ⟨["OK calling an instance method."]⟩) ∧
      other.route "-7" = table.route "-7" ∧ other.methodFor? "M" = table.methodFor? "M" := by
  intro methods
  have hperm : methods.Perm methods.reverse := (List.reverse_perm methods).symm
  have hfaultless : Faultless methods := by decide
  obtain ⟨table, htable⟩ := exists_of_faultless hfaultless .i8 .nothing
  have hforgets := compile_forgets_order hperm .i8 .nothing
  obtain ⟨other, hother⟩ := hforgets.1.mp ⟨table, htable⟩
  obtain ⟨slots, hbij, hslots, htokens⟩ := hforgets.2.2.1 table other htable hother
  obtain ⟨-, -, hmethod, hdispatch⟩ := htokens "M"
  obtain ⟨set, -, hset, -, rfl⟩ := exists_binds htable
  have haction : (actionsOf methods)[0]? = some methods[1] := rfl
  have hanswer := dispatch_action .i8 hset (⟨[]⟩ : Showcase) .nothing haction rfl
  refine ⟨hperm, _, other, htable, hother, hanswer, ?_, ?_, hmethod⟩
  · have hfirst : 0 < (ofMethodSet set .i8).size := by
      have hsize : (ofMethodSet set .i8).size = (actionsOf methods).length := hset.size_eq
      rw [hsize]
      decide
    have hslot : ((actionsOf methods.reverse).map token)[slots 0]? = some "M" := by
      rw [List.getElem?_map, hslots 0 hfirst]
      rfl
    have hdistinct : ((actionsOf methods.reverse).map token).Nodup := by decide
    have hlast : 2 = slots 0 := (List.getElem?_inj (by decide) hdistinct).mp hslot.symm
    rw [hdispatch]
    rw [hlast]
    exact congrArg (fun answer => (answer.1.map (Route.renumbered slots), answer.2)) hanswer
  · have hvalue : Domain.i8.parse "-7" = some (-7) := rfl
    obtain ⟨run, -, htarget⟩ := target?_integer .i8 hset (by decide)
      (List.mem_of_getElem? (i := 4) rfl) rfl hvalue
    rw [(htokens "-7").2.1, route, htarget]
    rfl

end Table

end Switchboard
