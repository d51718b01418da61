import Switchboard.Proofs.MethodSet.Helpers
import Switchboard.Proofs.Table.Renumbering
import Switchboard.Summary

namespace Switchboard

variable {H : Type}

open Method

namespace Method

-- The second of two sinks is where the fault was met, and the first one stands before it.
theorem lt_of_faultAt?_duplicateSink {methods : List (Method H)} {index first second : Nat}
    {kind : SinkKind} (h : faultAt? methods index = some (.duplicateSink kind first second)) :
    first < second ∧ second < methods.length := by
  obtain ⟨method, hmethod, hfault⟩ := Option.bind_eq_some_iff.mp h
  have hindex : index < methods.length := (List.getElem?_eq_some_iff.mp hmethod).1
  have hlength : (methods.take index).length = index := by
    rw [List.length_take]
    omega
  cases hrole : method.role with
  | action =>
      simp only [fault?, hrole] at hfault
      cases hfind : (actionsOf (methods.take index)).find? fun earlier =>
        earlier.token = method.token <;> simp only [hfind] at hfault
      · split_ifs at hfault
        cases hfault
      · cases hfault
  | sink other =>
      simp only [fault?, hrole] at hfault
      split_ifs at hfault
      · obtain ⟨earlier, hearlier, hfault⟩ := Option.map_eq_some_iff.mp hfault
        obtain ⟨-, rfl, rfl⟩ := CompileError.duplicateSink.inj hfault
        have hlt := (List.findIdx?_eq_some_iff_getElem.mp hearlier).1
        omega
      · cases hfault
  | excluded => simp [fault?, hrole] at hfault
  | ignored => simp [fault?, hrole] at hfault

theorem lt_of_ofMethods_duplicateSink {methods : List (Method H)} {first second : Nat}
    {kind : SinkKind}
    (h : MethodSet.ofMethods methods = .error (.duplicateSink kind first second)) :
    first < second ∧ second < methods.length := by
  by_cases hlimit : catalogLimit < (actionsOf methods).length
  · rw [MethodSet.ofMethods_overflow hlimit] at h
    cases h
  · rcases MethodSet.ofMethods_cases (Nat.not_lt.mp hlimit) with
      ⟨set, hok, -⟩ | ⟨fault, index, herror, hat, -⟩
    · rw [hok] at h
      cases h
    · rw [herror] at h
      exact lt_of_faultAt?_duplicateSink (Except.error.inj h ▸ hat)

theorem not_isHelper_of_name {method : Method H} {kind : SinkKind}
    (hname : method.name = kind.methodName) : ¬method.IsHelper := by
  have hrole := (role_eq_sink_iff method kind).mpr hname
  simp [IsHelper, hrole]

end Method

theorem BoundSink.Fills.exists_method {F : Type} {methods : List (Method H)} {kind : SinkKind}
    {pick : Binding H → Option F} {place : Option (BoundSink F)} {run : F}
    (h : Fills methods kind pick place) (hrun : place.map (·.run) = some run) :
    ∃ method ∈ methods, method.name = kind.methodName ∧ method.binding.bind pick = some run := by
  obtain ⟨sink, rfl, rfl⟩ := Option.map_eq_some_iff.mp hrun
  obtain ⟨method, hget, hname, -, hbinding, -⟩ := h
  exact ⟨method, List.mem_of_getElem? hget, hname, hbinding⟩

-- The body that a target calls.
def Target.body : Target H → Binding H
  | .action _ run => .action run
  | .integer _ run => .integer run
  | .text run => .text run

namespace Table

variable {set : MethodSet H} {methods : List (Method H)} {token : String} (domain : Domain)

-- What is called is the body of a method that takes part in dispatch.
theorem exists_method_of_target? (h : set.Binds methods) {target : Target H}
    (htarget : (ofMethodSet set domain).target? token = some target) :
    ∃ method ∈ methods, ¬method.IsHelper ∧ method.binding = some target.body := by
  rcases exists_slot_or_free methods token with ⟨slot, method, hslot, htoken⟩ | hfree
  · obtain ⟨run, hrun, haction⟩ := target?_action domain h hslot htoken
    obtain rfl := Option.some.inj (haction.symm.trans htarget)
    obtain ⟨hmem, hrole⟩ := List.mem_filter.mp (List.mem_of_getElem? hslot)
    have hrole : method.role = .action := by simpa using hrole
    exact ⟨method, hmem, by simp [IsHelper, hrole], hrun⟩
  · rw [target?_sinks domain h hfree, Option.or_eq_some_iff] at htarget
    rcases htarget with htarget | ⟨-, htarget⟩
    · obtain ⟨run, hrun, htarget⟩ := Option.bind_eq_some_iff.mp htarget
      obtain ⟨value, -, rfl⟩ := Option.map_eq_some_iff.mp htarget
      obtain ⟨method, hmem, hname, hbinding⟩ := h.integer.exists_method hrun
      exact ⟨method, hmem, not_isHelper_of_name hname, Binding.eq_integer_of_bind hbinding⟩
    · obtain ⟨run, hrun, rfl⟩ := Option.map_eq_some_iff.mp htarget
      obtain ⟨method, hmem, hname, hbinding⟩ := h.string.exists_method hrun
      exact ⟨method, hmem, not_isHelper_of_name hname, Binding.eq_text_of_bind hbinding⟩

-- Where the sinks were declared does not count when tokens are dispatched.
theorem target?_relocated (place : Nat → Nat) (set : MethodSet H) (token : String) :
    (ofMethodSet (set.relocated place) domain).target? token =
      (ofMethodSet set domain).target? token := by
  have haction : (ofMethodSet (set.relocated place) domain).actionAt? token =
      (ofMethodSet set domain).actionAt? token := rfl
  simp only [target?, haction]
  simp only [ofMethodSet, MethodSet.relocated]
  cases set.integerSink <;> cases set.stringSink <;> cases domain.parse token <;> rfl

theorem summary_relocated (place : Nat → Nat) (set : MethodSet H) :
    (ofMethodSet (set.relocated place) domain).summary = (ofMethodSet set domain).summary := by
  simp only [summary, ofMethodSet, MethodSet.relocated, Option.map_map]
  rfl

-- Helpers stay out of sight, whatever they are called and wherever they stand.
theorem compile_ignores_helpers {gaps : Nat → List (Method H)}
    (h : ∀ gap, ∀ helper ∈ gaps gap, helper.IsHelper) (methods : List (Method H))
    (domain : Domain) (journal : Journal) :
    (∀ place < methods.length,
      (spread gaps methods)[movedPlace gaps place]? = methods[place]?) ∧
    (∀ fault, ((compile methods domain).run journal).1 = .error fault →
      ((compile (spread gaps methods) domain).run journal).1 =
        .error (fault.relocated (movedPlace gaps)) ∧
      ∀ kind first second, fault = .duplicateSink kind first second →
        first < second ∧ second < methods.length) ∧
    (∀ fault, ((Catalog.compile methods).run journal).1 = .error fault →
      ((Catalog.compile (spread gaps methods)).run journal).1 =
        .error (fault.relocated (movedPlace gaps))) ∧
    (∀ catalog, ((Catalog.compile methods).run journal).1 = .ok catalog →
      ((Catalog.compile (spread gaps methods)).run journal).1 = .ok catalog) ∧
    ∀ table, ((compile methods domain).run journal).1 = .ok table →
      ∃ other, ((compile (spread gaps methods) domain).run journal).1 = .ok other ∧
        other.tokens = table.tokens ∧ other.summary = table.summary ∧
        other.summary.describe = table.summary.describe ∧ other.catalog = table.catalog ∧
        (∀ slot, other.methodAt? slot = table.methodAt? slot) ∧
        ∀ token, other.route token = table.route token ∧
          other.contains token = table.contains token ∧
          other.methodFor? token = table.methodFor? token ∧
          (∀ handler, other.dispatch handler token = table.dispatch handler token) ∧
          ∀ target, other.target? token = some target →
            ∃ method ∈ methods, ¬method.IsHelper ∧ method.binding = some target.body := by
  have hspread := MethodSet.ofMethods_spread h methods
  simp only [compile_outcome, Catalog.compile_outcome, hspread]
  refine ⟨fun _ => getElem?_spread gaps, ?_⟩
  cases hset : MethodSet.ofMethods methods with
  | error cause =>
      refine ⟨?_, ?_, ?_, ?_⟩
      · rintro fault ⟨⟩
        refine ⟨rfl, ?_⟩
        rintro kind first second rfl
        exact lt_of_ofMethods_duplicateSink hset
      · rintro fault ⟨⟩
        rfl
      · rintro catalog ⟨⟩
      · rintro table ⟨⟩
  | ok set =>
      have htarget := target?_relocated domain (movedPlace gaps) set
      have hsummary := summary_relocated domain (movedPlace gaps) set
      refine ⟨?_, ?_, ?_, ?_⟩
      · rintro fault ⟨⟩
      · rintro fault ⟨⟩
      · rintro catalog ⟨⟩
        rfl
      · rintro table ⟨⟩
        refine ⟨_, rfl, rfl, hsummary, by rw [hsummary], rfl, fun _ => rfl, fun token => ?_⟩
        refine ⟨?_, rfl, rfl, ?_, ?_⟩
        · simp only [route, htarget]
        · intro handler
          simp only [dispatch, htarget]
        · intro target hsome
          rw [htarget] at hsome
          exact exists_method_of_target? domain (MethodSet.ofMethods_binds hset).1 hsome

-- Two helpers behind the first method. One of them answers to the token of an action, and the
-- other one would do something else in its place.
theorem compile_ignores_helpers_shadow :
    let gaps : Nat → List (Method Nat) := fun gap =>
      if gap = 1 then
        [(Method.helper "rest" 2 true).answersTo "step", (Method.action "step" (Nat.add 9)).hidden]
      else []
    let sink : Method Nat := Method.integerSink fun total _ => total
    let methods : List (Method Nat) := [sink, Method.action "step" Nat.succ]
    (∀ gap, ∀ helper ∈ gaps gap, helper.IsHelper) ∧
    (∃ other, ((compile (spread gaps methods) .i32).run .nothing).1 = .ok other ∧
      ((other.dispatch 0 "step").run .nothing).1 = (.ok (.action 0), 1)) ∧
    ((compile (methods ++ [sink]) .i32).run .nothing).1 =
      .error (.duplicateSink .integer 0 2) ∧
    ((compile (spread gaps (methods ++ [sink])) .i32).run .nothing).1 =
      .error (.duplicateSink .integer 0 4) := by
  intro gaps sink methods
  have hgaps : ∀ gap, ∀ helper ∈ gaps gap, helper.IsHelper := by
    intro gap helper hmem
    by_cases hgap : gap = 1
    · simp only [gaps, if_pos hgap, List.mem_cons, List.not_mem_nil, or_false] at hmem
      rcases hmem with rfl | rfl <;> decide
    · simp [gaps, hgap] at hmem
  refine ⟨hgaps, ?_, ?_⟩
  · have hfaultless : Faultless methods := by decide
    obtain ⟨table, htable⟩ := exists_of_faultless hfaultless .i32 .nothing
    have hhelpers := (compile_ignores_helpers hgaps methods .i32 .nothing).2.2.2.2
    obtain ⟨other, hother, -, -, -, -, -, htokens⟩ := hhelpers table htable
    obtain ⟨set, -, hset, -, rfl⟩ := exists_binds htable
    refine ⟨other, hother, ?_⟩
    rw [(htokens "step").2.2.2.1 0]
    have haction : (actionsOf methods)[0]? = some methods[1] := rfl
    exact dispatch_action .i32 hset 0 .nothing haction rfl
  · have hfault : ((compile (methods ++ [sink]) .i32).run .nothing).1 =
        .error (.duplicateSink .integer 0 2) := by
      have hat : faultAt? (methods ++ [sink]) 2 = some (.duplicateSink .integer 0 2) := rfl
      rw [compile_outcome, MethodSet.ofMethods_eq_error (by decide) hat (by decide)]
      rfl
    exact ⟨hfault,
      ((compile_ignores_helpers hgaps (methods ++ [sink]) .i32 .nothing).2.1 _ hfault).1⟩

end Table

end Switchboard
