import Switchboard.Proofs.Table.Renumbering
import Switchboard.StackMachine

namespace Switchboard

variable {H : Type}

open Method

-- A stream is read back item by item, by whatever reads back each item of it.
theorem mapM_reads_back {α β ε δ : Type} {write : α → Except ε β} {read : β → Except δ α}
    (h : ∀ item code, write item = .ok code → read code = .ok item) {items : List α}
    {codes : List β} (hcodes : items.mapM write = .ok codes) : codes.mapM read = .ok items := by
  induction items generalizing codes with
  | nil =>
      cases hcodes
      rfl
  | cons item rest ih =>
      rw [List.mapM_cons] at hcodes
      cases hfirst : write item with
      | error fault =>
          rw [hfirst] at hcodes
          cases hcodes
      | ok code =>
          rw [hfirst] at hcodes
          cases hrest : rest.mapM write with
          | error fault =>
              rw [hrest] at hcodes
              cases hcodes
          | ok others =>
              rw [hrest] at hcodes
              cases hcodes
              rw [List.mapM_cons, h item code hfirst, ih hrest]
              rfl

namespace Method

theorem actionsOf_append (methods more : List (Method H)) :
    actionsOf (methods ++ more) = actionsOf methods ++ actionsOf more := List.filter_append ..

-- What stands at a place among the actions still stands there when more follow.
theorem getElem?_actionsOf_append {methods : List (Method H)} {slot : Nat} {method : Method H}
    (h : (actionsOf methods)[slot]? = some method) (more : List (Method H)) :
    (actionsOf (methods ++ more))[slot]? = some method := by
  rw [actionsOf_append, List.getElem?_append_left (List.getElem?_eq_some_iff.mp h).1, h]

-- A sink that an earlier list declares cannot be declared again behind it.
theorem Compatible.name_ne {methods more : List (Method H)} (h : Compatible (methods ++ more))
    {kind : SinkKind} (hearlier : ∃ method ∈ methods, method.name = kind.methodName) :
    ∀ method ∈ more, method.name ≠ kind.methodName := by
  obtain ⟨first, hfirst, hname⟩ := hearlier
  intro method hmem hsame
  refine (List.pairwise_append.mp h.apart).2.2 first hfirst method hmem (.inr ⟨kind, ?_, ?_⟩)
  · exact (role_eq_sink_iff first kind).mpr hname
  · exact (role_eq_sink_iff method kind).mpr hsame

end Method

namespace Table

-- A declaration may grow at its end. All ids and slots that were given out stay what they were,
-- and so does every other route, as long as nothing new takes the token.
theorem compile_extends {methods more : List (Method H)} {domain : Domain} {journal : Journal}
    {wide : Table H} (h : ((compile (methods ++ more) domain).run journal).1 = .ok wide) :
    ∃ table catalog wideCatalog,
      ((compile methods domain).run journal).1 = .ok table ∧
      ((Catalog.compile methods).run journal).1 = .ok catalog ∧
      ((Catalog.compile (methods ++ more)).run journal).1 = .ok wideCatalog ∧
      (∀ method ∈ actionsOf methods, ∃ id slot,
        catalog.encode method.token = .ok id ∧ wideCatalog.encode method.token = .ok id ∧
        table.route method.token = .ok (.action slot) ∧
        wide.route method.token = .ok (.action slot)) ∧
      (∀ id token, catalog.decode id = .ok token → wideCatalog.decode id = .ok token) ∧
      (∀ (tokens : List String) (ids : List UInt16), tokens.mapM catalog.encode = .ok ids →
        ids.mapM catalog.decode = .ok tokens ∧ ids.mapM wideCatalog.decode = .ok tokens) ∧
      ∀ token, (∀ method ∈ actionsOf more, method.token ≠ token) →
        (∀ kind : SinkKind, (∃ method ∈ more, method.name = kind.methodName) →
          ∃ method ∈ methods, method.name = kind.methodName) →
        wide.route token = table.route token := by
  have hwide : Compatible (methods ++ more) := (exists_compile_iff _ domain journal).mp ⟨wide, h⟩
  have hnarrow : Compatible methods := hwide.sublist (List.sublist_append_left methods more)
  obtain ⟨set, hset⟩ := (MethodSet.exists_ofMethods_iff methods).mpr hnarrow
  obtain ⟨wideSet, hwideSet⟩ := (MethodSet.exists_ofMethods_iff (methods ++ more)).mpr hwide
  have htable := compile_outcome methods domain journal
  have hcatalog := Catalog.compile_outcome methods journal
  have hwideCatalog := Catalog.compile_outcome (methods ++ more) journal
  rw [hset] at htable hcatalog
  rw [hwideSet] at hwideCatalog
  rw [compile_outcome, hwideSet] at h
  obtain rfl := Except.ok.inj h
  obtain ⟨hbinds, hlimit⟩ := MethodSet.ofMethods_binds hset
  obtain ⟨hwideBinds, hwideLimit⟩ := MethodSet.ofMethods_binds hwideSet
  have hkeep : ∀ (slot : Nat) method, (actionsOf methods)[slot]? = some method →
      (actionsOf (methods ++ more))[slot]? = some method :=
    fun slot method hmethod => getElem?_actionsOf_append hmethod more
  have htokens : ∀ (place : Nat) token,
      ((actionsOf methods).map Method.token)[place]? = some token →
      ((actionsOf (methods ++ more)).map Method.token)[place]? = some token := by
    intro place token htoken
    rw [List.getElem?_map, Option.map_eq_some_iff] at htoken ⊢
    obtain ⟨method, hmethod, htoken⟩ := htoken
    exact ⟨method, hkeep place method hmethod, htoken⟩
  have hencode : ∀ token id, (Catalog.ofActions set.actions).encode token = .ok id →
      ((actionsOf methods).map Method.token)[id.toNat]? = some token :=
    fun _ _ => (Catalog.encode_eq_ok_iff_getElem? hbinds hlimit).mp
  refine ⟨_, _, _, htable, hcatalog, hwideCatalog, ?_, ?_, ?_, ?_⟩
  · intro method hmem
    obtain ⟨slot, hslot⟩ := List.mem_iff_getElem?.mp hmem
    have hwideSlot := hkeep slot method hslot
    refine ⟨UInt16.ofNat slot, slot, ?_, ?_, ?_, ?_⟩
    · exact (Catalog.encode_eq_ok_iff hbinds).mpr ⟨slot, method, hslot, rfl, rfl⟩
    · exact (Catalog.encode_eq_ok_iff hwideBinds).mpr ⟨slot, method, hwideSlot, rfl, rfl⟩
    · exact (route_eq_action_iff domain hbinds).mpr ⟨method, hslot, rfl⟩
    · exact (route_eq_action_iff domain hwideBinds).mpr ⟨method, hwideSlot, rfl⟩
  · intro id token htoken
    exact (Catalog.decode_eq_ok_iff hwideBinds).mpr
      (htokens _ token ((Catalog.decode_eq_ok_iff hbinds).mp htoken))
  · intro tokens ids hids
    refine ⟨mapM_reads_back ?_ hids, mapM_reads_back ?_ hids⟩
    · exact fun token id hid => (Catalog.decode_eq_ok_iff hbinds).mpr (hencode token id hid)
    · exact fun token id hid =>
        (Catalog.decode_eq_ok_iff hwideBinds).mpr (htokens _ token (hencode token id hid))
  · intro token hfree hsinks
    have htarget : (ofMethodSet wideSet domain).target? token =
        ((ofMethodSet set domain).target? token).map (·.renumbered id) := by
      refine target?_renumbered domain hbinds hwideBinds ?_ ?_ ?_
      · exact fun slot method hmethod _ => hkeep slot method hmethod
      · intro hnone method hmem
        rw [actionsOf_append] at hmem
        exact (List.mem_append.mp hmem).elim (hnone method) (hfree method)
      · intro kind method hname
        refine ⟨fun hmem => ?_, List.mem_append_left more⟩
        refine (List.mem_append.mp hmem).elim id fun hmore => ?_
        exact absurd hname (hwide.name_ne (hsinks kind ⟨method, hmore, hname⟩) method hmore)
    simpa using route_renumbered htarget

-- A stack machine that learns one more word.
theorem compile_extends_words :
    let methods := Handler.methods (H := StackMachine)
    let more : List (Method StackMachine) :=
      [Method.helper "reset" 1 false,
        (Method.action "clear" fun _ => StackMachine.empty).answersTo "c"]
    ∃ table wide catalog wideCatalog ids,
      ((compile methods .i32).run .nothing).1 = .ok table ∧
      ((compile (methods ++ more) .i32).run .nothing).1 = .ok wide ∧
      ((Catalog.compile methods).run .nothing).1 = .ok catalog ∧
      ((Catalog.compile (methods ++ more)).run .nothing).1 = .ok wideCatalog ∧
      ["dup", "*", "."].mapM catalog.encode = .ok ids ∧
      ids.mapM wideCatalog.decode = .ok ["dup", "*", "."] ∧
      wide.route "-7" = table.route "-7" ∧ wide.route "reset" = table.route "reset" := by
  intro methods more
  have hfaultless : Faultless (methods ++ more) := by decide
  obtain ⟨wide, hwide⟩ := exists_of_faultless hfaultless .i32 .nothing
  obtain ⟨table, catalog, wideCatalog, htable, hcatalog, hwideCatalog, hids, -, hstreams,
    hroutes⟩ := compile_extends hwide
  obtain ⟨dup, -, hdup, -⟩ := hids methods[8] (List.mem_of_getElem? (i := 7) rfl)
  obtain ⟨times, -, htimes, -⟩ := hids methods[3] (List.mem_of_getElem? (i := 2) rfl)
  obtain ⟨print, -, hprint, -⟩ := hids methods[6] (List.mem_of_getElem? (i := 5) rfl)
  have hencode : ["dup", "*", "."].mapM catalog.encode = .ok [dup, times, print] := by
    change catalog.encode "dup" = _ at hdup
    change catalog.encode "*" = _ at htimes
    change catalog.encode "." = _ at hprint
    simp only [List.mapM_cons, List.mapM_nil, hdup, htimes, hprint]
    rfl
  have hsinks : ∀ kind : SinkKind, (∃ method ∈ more, method.name = kind.methodName) →
      ∃ method ∈ methods, method.name = kind.methodName := by
    intro kind
    cases kind <;> decide
  exact ⟨table, wide, catalog, wideCatalog, _, htable, hwide, hcatalog, hwideCatalog, hencode,
    (hstreams _ _ hencode).2, hroutes "-7" (by decide) hsinks, hroutes "reset" (by decide) hsinks⟩

end Table

end Switchboard
