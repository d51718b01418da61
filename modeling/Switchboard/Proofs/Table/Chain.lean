import Switchboard.Proofs.Table.Index
import Switchboard.Showcase

namespace Switchboard

variable {H : Type}

open Method

-- A filled place answers for the method that declares the sink.
theorem BoundSink.Fills.exists_run {F : Type} {methods : List (Method H)} {kind : SinkKind}
    {pick : Binding H → Option F} {place : Option (BoundSink F)} {method : Method H}
    (h : Fills methods kind pick place) (hmem : method ∈ methods)
    (hname : method.name = kind.methodName) :
    ∃ sink, place = some sink ∧ method.binding.bind pick = some sink.run := by
  cases place with
  | none => exact absurd hname (h method hmem)
  | some sink =>
      obtain ⟨found, hget, -, -, hrun, honly⟩ := h
      obtain ⟨index, hindex⟩ := List.mem_iff_getElem?.mp hmem
      obtain rfl := honly index method hindex hname
      obtain rfl := Option.some.inj (hindex.symm.trans hget)
      exact ⟨sink, rfl, hrun⟩

theorem BoundSink.Fills.eq_none {F : Type} {methods : List (Method H)} {kind : SinkKind}
    {pick : Binding H → Option F} {place : Option (BoundSink F)} (h : Fills methods kind pick place)
    (hnone : ∀ method ∈ methods, method.name ≠ kind.methodName) : place = none := by
  cases place with
  | none => rfl
  | some sink =>
      obtain ⟨found, hget, hname, -⟩ := h
      exact absurd hname (hnone found (List.mem_of_getElem? hget))

namespace Binding

theorem eq_integer_of_bind {binding : Option (Binding H)} {run : H → Int64 → Told H}
    (h : binding.bind integer? = some run) : binding = some (.integer run) := by
  cases binding with
  | none => cases h
  | some binding => cases binding <;> simp_all [integer?]

theorem eq_text_of_bind {binding : Option (Binding H)} {run : H → String → Told H}
    (h : binding.bind text? = some run) : binding = some (.text run) := by
  cases binding with
  | none => cases h
  | some binding => cases binding <;> simp_all [text?]

end Binding

namespace Method

-- All actions of a list together, as one function of the word that is their token.
def Perform (methods : List (Method H)) (words : List String) (act : H → String → H) : Prop :=
  (actionsOf methods).map (fun method => (method.token, method.binding)) =
    words.map fun word => (word, some (.action (act · word)))

namespace Perform

variable {methods : List (Method H)} {words : List String} {act : H → String → H} {word : String}

theorem exists_slot (h : Perform methods words act) (hword : word ∈ words) :
    ∃ (slot : Nat) (method : Method H), (actionsOf methods)[slot]? = some method ∧
      method.token = word ∧ method.binding = some (.action (act · word)) := by
  have hmem : (word, some (Binding.action (act · word))) ∈
      (actionsOf methods).map fun method => (method.token, method.binding) :=
    h ▸ List.mem_map_of_mem hword
  obtain ⟨method, hmethod, heq⟩ := List.mem_map.mp hmem
  obtain ⟨slot, hslot⟩ := List.mem_iff_getElem?.mp hmethod
  obtain ⟨rfl, hbinding⟩ := Prod.mk.inj heq
  exact ⟨slot, method, hslot, rfl, hbinding⟩

theorem token_ne (h : Perform methods words act) (hword : word ∉ words) :
    ∀ method ∈ actionsOf methods, method.token ≠ word := by
  rintro method hmethod rfl
  have hmem : (method.token, method.binding) ∈
      words.map fun word => (word, some (.action (act · word))) := h ▸ List.mem_map_of_mem hmethod
  obtain ⟨word, hmem, heq⟩ := List.mem_map.mp hmem
  exact hword ((Prod.mk.inj heq).1 ▸ hmem)

end Perform

end Method

namespace Table

-- What is answered and what becomes of the handler, whoever listens.
theorem dispatch_outcome (table : Table H) (handler : H) (token : String) (journal : Journal) :
    ((table.dispatch handler token).run journal).1 =
      match table.target? token with
      | none => (.error (.unknownToken token), handler)
      | some target => (.ok target.route, (target.invoke token handler).value) := by
  unfold dispatch
  cases table.target? token <;> rfl

theorem dispatch_listener (table : Table H) (handler : H) (token : String)
    (listener further : Journal) :
    ((table.dispatch handler token).run listener).1 =
      ((table.dispatch handler token).run further).1 := by
  rw [dispatch_outcome, dispatch_outcome]

-- What one token keeps of a handler, taken or not, is kept by many.
theorem dispatchAllFrom_keeps {table : Table H} {motive : H → Prop}
    (hkeeps : ∀ handler token journal, motive handler →
      motive ((table.dispatch handler token).run journal).1.2) {handler : H}
    (h : motive handler) (count : Nat) (tokens : List String) (journal : Journal) :
    motive ((table.dispatchAllFrom count handler tokens).run journal).1.2 := by
  induction tokens generalizing handler count journal with
  | nil => exact h
  | cons token rest ih =>
      have hnext := hkeeps handler token journal h
      simp only [dispatchAllFrom, Logged.bind_outcome]
      generalize (table.dispatch handler token).run journal = told at hnext
      obtain ⟨⟨cause | route, next⟩, listener⟩ := told
      · exact hnext
      · exact ih hnext (count + 1) listener

variable {set : MethodSet H} {methods : List (Method H)} {token : String}
  (domain : Domain)

theorem actionAt?_of_getElem? (h : set.Binds methods) {slot : Nat} {method : Method H}
    (hmethod : (actionsOf methods)[slot]? = some method) (htoken : method.token = token) :
    ∃ run, method.binding = some (.action run) ∧
      (ofMethodSet set domain).actionAt? token =
        some (slot, ⟨UInt16.ofNat slot, token, method.name, run⟩) := by
  obtain ⟨run, hbinding, haction⟩ := h.exists_action hmethod
  have hindex := (getElem?_index_eq_some_iff domain h).mpr ⟨method, hmethod, htoken⟩
  refine ⟨run, hbinding, ?_⟩
  simp only [actionAt?, hindex]
  subst htoken
  simp only [ofMethodSet, haction, Option.bind_eq_bind, Option.bind_some]
  rfl

theorem actionAt?_eq_none (h : set.Binds methods)
    (hnone : ∀ method ∈ actionsOf methods, method.token ≠ token) :
    (ofMethodSet set domain).actionAt? token = none := by
  simp only [actionAt?, getElem?_index_eq_none domain h hnone]
  rfl

theorem target?_action (h : set.Binds methods) {slot : Nat} {method : Method H}
    (hmethod : (actionsOf methods)[slot]? = some method) (htoken : method.token = token) :
    ∃ run, method.binding = some (.action run) ∧
      (ofMethodSet set domain).target? token = some (.action slot run) := by
  obtain ⟨run, hbinding, haction⟩ :=
    actionAt?_of_getElem? domain h hmethod htoken
  exact ⟨run, hbinding, by simp only [target?, haction]⟩

theorem target?_integer (h : set.Binds methods)
    (hnone : ∀ method ∈ actionsOf methods, method.token ≠ token) {method : Method H}
    (hmem : method ∈ methods) (hname : method.name = SinkKind.integer.methodName) {value : Int64}
    (hvalue : domain.parse token = some value) :
    ∃ run, method.binding = some (.integer run) ∧
      (ofMethodSet set domain).target? token = some (.integer value run) := by
  obtain ⟨sink, hsink, hrun⟩ := h.integer.exists_run hmem hname
  refine ⟨sink.run, Binding.eq_integer_of_bind hrun, ?_⟩
  simp only [target?, actionAt?_eq_none domain h hnone]
  simp only [ofMethodSet, hsink, hvalue]

-- Without an integer sink, or with a token that is no integer of the domain, only the string sink
-- is left.
theorem target?_text (h : set.Binds methods)
    (hnone : ∀ method ∈ actionsOf methods, method.token ≠ token)
    (hinteger : (∀ method ∈ methods, method.name ≠ SinkKind.integer.methodName) ∨
      domain.parse token = none) :
    (ofMethodSet set domain).target? token =
      set.stringSink.map fun sink => Target.text sink.run := by
  simp only [target?, actionAt?_eq_none domain h hnone]
  simp only [ofMethodSet]
  rcases hinteger with hinteger | hinteger
  · rw [h.integer.eq_none hinteger]
  · rw [hinteger]
    cases set.integerSink <;> rfl

section Dispatch

variable (h : set.Binds methods) (handler : H) (journal : Journal)

include h

theorem dispatch_action {slot : Nat} {method : Method H} {run : H → Told H}
    (hmethod : (actionsOf methods)[slot]? = some method)
    (hbinding : method.binding = some (.action run)) :
    (((ofMethodSet set domain).dispatch handler method.token).run journal).1 =
      (.ok (.action slot), (run handler).value) := by
  obtain ⟨found, hfound, htarget⟩ := target?_action domain h hmethod rfl
  rw [hbinding] at hfound
  cases hfound
  rw [dispatch_outcome, htarget]
  rfl

theorem dispatch_perform {words : List String} {act : H → String → H}
    (hact : Perform methods words act) (htoken : token ∈ words) :
    ∃ slot, (((ofMethodSet set domain).dispatch handler token).run journal).1 =
      (.ok (.action slot), act handler token) := by
  obtain ⟨slot, method, hmethod, rfl, hbinding⟩ := hact.exists_slot htoken
  exact ⟨slot, dispatch_action domain h handler journal hmethod hbinding⟩

theorem dispatch_integer (hnone : ∀ method ∈ actionsOf methods, method.token ≠ token)
    {method : Method H} (hmem : method ∈ methods)
    (hname : method.name = SinkKind.integer.methodName) {run : H → Int64 → Told H}
    (hbinding : method.binding = some (.integer run)) {value : Int64}
    (hvalue : domain.parse token = some value) :
    (((ofMethodSet set domain).dispatch handler token).run journal).1 =
      (.ok (.integer value), (run handler value).value) := by
  obtain ⟨found, hfound, htarget⟩ := target?_integer domain h hnone hmem hname hvalue
  rw [hbinding] at hfound
  cases hfound
  rw [dispatch_outcome, htarget]
  rfl

theorem dispatch_text (hnone : ∀ method ∈ actionsOf methods, method.token ≠ token)
    (hinteger : (∀ method ∈ methods, method.name ≠ SinkKind.integer.methodName) ∨
      domain.parse token = none)
    {method : Method H} (hmem : method ∈ methods)
    (hname : method.name = SinkKind.string.methodName) {run : H → String → Told H}
    (hbinding : method.binding = some (.text run)) :
    (((ofMethodSet set domain).dispatch handler token).run journal).1 =
      (.ok .text, (run handler token).value) := by
  obtain ⟨sink, hsink, hrun⟩ := h.string.exists_run hmem hname
  have hfound := Binding.eq_text_of_bind hrun
  rw [hbinding] at hfound
  cases hfound
  rw [dispatch_outcome, target?_text domain h hnone hinteger, hsink]
  rfl

theorem dispatch_unknown (hnone : ∀ method ∈ actionsOf methods, method.token ≠ token)
    (hinteger : (∀ method ∈ methods, method.name ≠ SinkKind.integer.methodName) ∨
      domain.parse token = none)
    (hstring : ∀ method ∈ methods, method.name ≠ SinkKind.string.methodName) :
    (((ofMethodSet set domain).dispatch handler token).run journal).1 =
      (.error (.unknownToken token), handler) := by
  rw [dispatch_outcome, target?_text domain h hnone hinteger, h.string.eq_none hstring]
  rfl

end Dispatch

-- Every token goes to the one action that answers to it, else as an integer to the integer sink,
-- else as it stands to the string sink, and else nowhere. A route is what a call would report.
theorem dispatch_follows_chain {methods : List (Method H)} {domain : Domain} {table : Table H}
    {journal : Journal} (h : ((compile methods domain).run journal).1 = .ok table)
    (token : String) (handler : H) (listener : Journal) :
    let answer := ((table.dispatch handler token).run listener).1
    (∀ slot method, (actionsOf methods)[slot]? = some method → method.token = token →
      (∀ other found, (actionsOf methods)[other]? = some found → found.token = token →
        other = slot) ∧
      ∃ run, method.binding = some (.action run) ∧
        answer = (.ok (.action slot), (run handler).value)) ∧
    ((∀ method ∈ actionsOf methods, method.token ≠ token) →
      (∀ method ∈ methods, method.name = "ParseInt" → ∀ value, domain.parse token = some value →
        ∃ run, method.binding = some (.integer run) ∧
          answer = (.ok (.integer value), (run handler value).value)) ∧
      ((∀ method ∈ methods, method.name ≠ "ParseInt") ∨ domain.parse token = none →
        (∀ method ∈ methods, method.name = "ParseString" →
          ∃ run, method.binding = some (.text run) ∧
            answer = (.ok .text, (run handler token).value)) ∧
        ((∀ method ∈ methods, method.name ≠ "ParseString") →
          answer = (.error (.unknownToken token), handler)))) ∧
    table.route token = answer.1 := by
  obtain ⟨set, -, hset, -, rfl⟩ := exists_binds h
  simp only [dispatch_outcome]
  refine ⟨?_, ?_, ?_⟩
  · intro slot method hmethod htoken
    refine ⟨?_, ?_⟩
    · intro other found hfound hsame
      have hslot := (getElem?_index_eq_some_iff domain hset).mpr ⟨method, hmethod, htoken⟩
      have hother := (getElem?_index_eq_some_iff domain hset).mpr ⟨found, hfound, hsame⟩
      exact Option.some.inj (hother.symm.trans hslot)
    · obtain ⟨run, hbinding, htarget⟩ := target?_action domain hset hmethod htoken
      exact ⟨run, hbinding, by rw [htarget]; rfl⟩
  · intro hnone
    refine ⟨?_, ?_⟩
    · intro method hmem hname value hvalue
      obtain ⟨run, hbinding, htarget⟩ := target?_integer domain hset hnone hmem hname hvalue
      exact ⟨run, hbinding, by rw [htarget]; rfl⟩
    · intro hinteger
      have htarget := target?_text domain hset hnone hinteger
      refine ⟨?_, ?_⟩
      · intro method hmem hname
        obtain ⟨sink, hsink, hrun⟩ := hset.string.exists_run hmem hname
        exact ⟨sink.run, Binding.eq_text_of_bind hrun, by rw [htarget, hsink]; rfl⟩
      · intro hstring
        rw [htarget, hset.string.eq_none hstring]
        rfl
  · unfold route
    cases (ofMethodSet set domain).target? token <;> rfl

theorem dispatch_follows_chain_showcase :
    ∃ table, ((compile (Handler.methods (H := Showcase)) .i8).run .nothing).1 = .ok table ∧
      ((table.dispatch ⟨[]⟩ "N").run .nothing).1 =
        (.ok (.action 1), ⟨["OK calling another instance method."]⟩) ∧
      ((table.dispatch ⟨[]⟩ "-7").run .nothing).1 =
        (.ok (.integer (-7)), ⟨["OK parsing the int got -7"]⟩) ∧
      ((table.dispatch ⟨[]⟩ "300").run .nothing).1 =
        (.ok .text, ⟨["OK parsing the string got 300"]⟩) := by
  have hmethods : Faultless (Handler.methods (H := Showcase)) := by decide
  obtain ⟨table, h⟩ := exists_of_faultless hmethods .i8 .nothing
  refine ⟨table, h, ?_, ?_, ?_⟩
  · have hchain := (dispatch_follows_chain h "N" ⟨[]⟩ .nothing).1
    obtain ⟨-, run, hrun, hanswer⟩ := hchain 1 _ rfl rfl
    cases hrun
    exact hanswer
  · have hchain := (dispatch_follows_chain h "-7" ⟨[]⟩ .nothing).2.1 (by decide)
    obtain ⟨run, hrun, hanswer⟩ := hchain.1 _ (List.mem_of_getElem? (i := 4) rfl) rfl _ rfl
    cases hrun
    exact hanswer
  · have hchain := (dispatch_follows_chain h "300" ⟨[]⟩ .nothing).2.1 (by decide)
    obtain ⟨run, hrun, hanswer⟩ :=
      (hchain.2 (.inr (by decide))).1 _ (List.mem_of_getElem? (i := 5) rfl) rfl
    cases hrun
    exact hanswer

end Table

end Switchboard
