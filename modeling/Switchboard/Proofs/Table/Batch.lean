import Switchboard.Proofs.Table.Chain
import Switchboard.Showcase

namespace Switchboard.Table

variable {H : Type}

-- A handler gives out the table that it is dispatched through. For one token it is asked once, and
-- for many at once it is asked before the first of them only.
def dispatchVia (tableOf : H → Table H) (handler : H) (token : String) :
    Logged (Except DispatchError Route × H) :=
  (tableOf handler).dispatch handler token

def dispatchAllVia (tableOf : H → Table H) (handler : H) (tokens : List String) :
    Logged (Except DispatchError Nat × H) :=
  (tableOf handler).dispatchAll handler tokens

-- The handler behind tokens that are dispatched one at a time, whatever the answers are.
def throughEach (tableOf : H → Table H) (handler : H) (tokens : List String) : Logged H :=
  tokens.foldlM (fun handler token => Prod.snd <$> dispatchVia tableOf handler token) handler

-- A handler gives out this table and no other, whatever is dispatched to it.
def KeptBy (table : Table H) (tableOf : H → Table H) (handler : H) : Prop :=
  ∀ tokens journal, tableOf ((throughEach tableOf handler tokens).run journal).1 = table

-- Two batches, the second for what the first leaves, and only if all of the first was taken. The
-- tokens of both are counted.
def inTurn (first : Logged (Except DispatchError Nat × H))
    (second : H → Logged (Except DispatchError Nat × H)) :
    Logged (Except DispatchError Nat × H) := do
  match ← first with
  | (.error cause, handler) => return (.error cause, handler)
  | (.ok count, handler) =>
      let (answer, handler) ← second handler
      return (answer.map (count + ·), handler)

variable {table : Table H} {tableOf : H → Table H} {handler : H} {token : String}
  {tokens : List String}

theorem dispatch_answer (table : Table H) (handler : H) (token : String) (journal : Journal) :
    ((table.dispatch handler token).run journal).1.1 = table.route token := by
  rw [dispatch_outcome, route]
  cases table.target? token <;> rfl

theorem dispatch_refused (hroute : ∀ route, table.route token ≠ .ok route) (handler : H) :
    table.dispatch handler token = pure (.error (.unknownToken token), handler) := by
  simp only [route] at hroute
  unfold dispatch
  cases htarget : table.target? token with
  | none => rfl
  | some target =>
      rw [htarget] at hroute
      exact absurd rfl (hroute target.route)

theorem throughEach_cons (tableOf : H → Table H) (handler : H) (token : String)
    (tokens : List String) (journal : Journal) :
    (throughEach tableOf handler (token :: tokens)).run journal =
      (throughEach tableOf (((dispatchVia tableOf handler token).run journal).1.2) tokens).run
        ((dispatchVia tableOf handler token).run journal).2 := rfl

-- Who listens makes no difference to what becomes of the handler.
theorem throughEach_listener (tableOf : H → Table H) (handler : H) (tokens : List String)
    (listener further : Journal) :
    ((throughEach tableOf handler tokens).run listener).1 =
      ((throughEach tableOf handler tokens).run further).1 := by
  induction tokens generalizing handler listener further with
  | nil => rfl
  | cons token tokens ih =>
      rw [throughEach_cons, throughEach_cons]
      simp only [dispatchVia, dispatch_listener (tableOf handler) handler token listener further]
      exact ih _ _ _

namespace KeptBy

theorem tableOf_eq (h : table.KeptBy tableOf handler) : tableOf handler = table := h [] .nothing

theorem dispatched (h : table.KeptBy tableOf handler) (token : String) (journal : Journal) :
    table.KeptBy tableOf ((table.dispatch handler token).run journal).1.2 := by
  intro tokens listener
  have hnext := h (token :: tokens) journal
  rw [throughEach_cons, dispatchVia, h.tableOf_eq] at hnext
  rw [throughEach_listener tableOf _ tokens listener, hnext]

end KeptBy

theorem dispatchAllFrom_cons {route : Route} (hroute : table.route token = .ok route)
    (count : Nat) (handler : H) (rest : List String) (journal : Journal) :
    (table.dispatchAllFrom count handler (token :: rest)).run journal =
      (table.dispatchAllFrom (count + 1) ((table.dispatch handler token).run journal).1.2 rest).run
        ((table.dispatch handler token).run journal).2 := by
  have hanswer := (dispatch_answer table handler token journal).trans hroute
  simp only [dispatchAllFrom, StateT.run_bind]
  generalize (table.dispatch handler token).run journal = told at hanswer
  obtain ⟨⟨answer, next⟩, listener⟩ := told
  obtain rfl : answer = .ok route := hanswer
  rfl

theorem dispatchAllFrom_cons_refused (hroute : ∀ route, table.route token ≠ .ok route)
    (count : Nat) (handler : H) (rest : List String) :
    table.dispatchAllFrom count handler (token :: rest) =
      pure (.error (.unknownToken token), handler) := by
  rw [dispatchAllFrom, dispatch_refused hroute, pure_bind]

theorem dispatchAllFrom_taken (h : table.KeptBy tableOf handler)
    (hall : ∀ token ∈ tokens, ∃ route, table.route token = .ok route) (count : Nat)
    (journal : Journal) :
    (table.dispatchAllFrom count handler tokens).run journal =
      ((.ok (count + tokens.length), ((throughEach tableOf handler tokens).run journal).1),
        ((throughEach tableOf handler tokens).run journal).2) := by
  induction tokens generalizing handler count journal with
  | nil => rfl
  | cons token tokens ih =>
      obtain ⟨route, hroute⟩ := hall token List.mem_cons_self
      have hrest := ih (h.dispatched token journal)
        (fun other hmem => hall other (List.mem_cons_of_mem token hmem)) (count + 1)
        ((table.dispatch handler token).run journal).2
      rw [dispatchAllFrom_cons hroute, hrest, throughEach_cons, dispatchVia, h.tableOf_eq,
        List.length_cons]
      congr 3
      omega

-- Tokens can be cut anywhere. The count goes on behind the cut.
theorem dispatchAllFrom_append (count : Nat) (handler : H) (before after : List String) :
    table.dispatchAllFrom count handler (before ++ after) = (do
      match ← table.dispatchAllFrom count handler before with
      | (.error cause, handler) => return (.error cause, handler)
      | (.ok count, handler) => table.dispatchAllFrom count handler after) := by
  induction before generalizing count handler with
  | nil => rfl
  | cons token before ih =>
      simp only [List.cons_append, dispatchAllFrom, bind_assoc]
      congr 1
      funext told
      obtain ⟨answer, next⟩ := told
      cases answer with
      | error cause => rfl
      | ok route => exact ih (count + 1) next

-- Where the count starts makes no difference to anything else.
theorem dispatchAllFrom_count (count extra : Nat) (handler : H) (tokens : List String) :
    table.dispatchAllFrom (count + extra) handler tokens =
      (fun (answer, handler) => (answer.map (count + ·), handler)) <$>
        table.dispatchAllFrom extra handler tokens := by
  induction tokens generalizing extra handler with
  | nil => rfl
  | cons token tokens ih =>
      simp only [dispatchAllFrom, map_bind]
      congr 1
      funext told
      obtain ⟨answer, next⟩ := told
      cases answer with
      | error cause => rfl
      | ok route => exact ih (extra + 1) next

theorem dispatchAllFrom_refused (h : table.KeptBy tableOf handler) {before after : List String}
    (hbefore : ∀ earlier ∈ before, ∃ route, table.route earlier = .ok route)
    (hroute : ∀ route, table.route token ≠ .ok route) (count : Nat) (journal : Journal) :
    (table.dispatchAllFrom count handler (before ++ token :: after)).run journal =
      ((.error (.unknownToken token), ((throughEach tableOf handler before).run journal).1),
        ((throughEach tableOf handler before).run journal).2) := by
  rw [dispatchAllFrom_append, StateT.run_bind, dispatchAllFrom_taken h hbefore]
  simp only [dispatchAllFrom_cons_refused hroute]
  rfl

-- The answer is settled by the tokens, whatever they do to the handler.
theorem dispatchAllFrom_answer (count : Nat) (handler other : H) (tokens : List String)
    (journal listener : Journal) :
    ((table.dispatchAllFrom count handler tokens).run journal).1.1 =
      ((table.dispatchAllFrom count other tokens).run listener).1.1 := by
  induction tokens generalizing count handler other journal listener with
  | nil => rfl
  | cons token tokens ih =>
      by_cases hroute : ∃ route, table.route token = .ok route
      · obtain ⟨route, hroute⟩ := hroute
        rw [dispatchAllFrom_cons hroute, dispatchAllFrom_cons hroute]
        exact ih _ _ _ _ _
      · rw [not_exists] at hroute
        rw [dispatchAllFrom_cons_refused hroute, dispatchAllFrom_cons_refused hroute]
        rfl

-- Many tokens at once are the same tokens one after another, up to the first that goes nowhere.
-- Which one that is depends on the tokens and the table alone. A batch can be cut in two.
theorem dispatchAll_folds (h : table.KeptBy tableOf handler) (tokens : List String)
    (journal : Journal) :
    let batch := (dispatchAllVia tableOf handler tokens).run journal
    let each (tokens : List String) := (throughEach tableOf handler tokens).run journal
    ((∀ token ∈ tokens, ∃ route, table.route token = .ok route) →
      batch = ((.ok tokens.length, (each tokens).1), (each tokens).2)) ∧
    (∀ index token, tokens[index]? = some token →
      (∀ earlier ∈ tokens.take index, ∃ route, table.route earlier = .ok route) →
      (∀ route, table.route token ≠ .ok route) →
      batch = ((.error (.unknownToken token), (each (tokens.take index)).1),
        (each (tokens.take index)).2)) ∧
    (∀ more, (dispatchAllVia tableOf handler (tokens ++ more)).run journal =
      (inTurn (dispatchAllVia tableOf handler tokens) (dispatchAllVia tableOf · more)).run
        journal) ∧
    ∀ other listener, table.KeptBy tableOf other →
      ((dispatchAllVia tableOf other tokens).run listener).1.1 = batch.1.1 := by
  intro batch each
  have hbatch : batch = (table.dispatchAllFrom 0 handler tokens).run journal := by
    simp only [batch, dispatchAllVia, h.tableOf_eq, dispatchAll]
  refine ⟨fun hall => ?_, fun index token htoken hearlier hroute => ?_, fun more => ?_,
    fun other listener hother => ?_⟩
  · rw [hbatch, dispatchAllFrom_taken h hall, Nat.zero_add]
  · have hsplit : tokens = tokens.take index ++ token :: tokens.drop (index + 1) := by
      obtain ⟨hlt, rfl⟩ := List.getElem?_eq_some_iff.mp htoken
      rw [List.getElem_cons_drop, List.take_append_drop]
    conv_lhs => rw [hbatch, hsplit]
    exact dispatchAllFrom_refused h hearlier hroute 0 journal
  · have hkept : table.KeptBy tableOf batch.1.2 := by
      rw [hbatch]
      exact dispatchAllFrom_keeps (fun _ token listener hnow => hnow.dispatched token listener) h 0
        tokens journal
    rw [hbatch] at hkept
    simp only [dispatchAllVia, h.tableOf_eq, dispatchAll, inTurn, dispatchAllFrom_append,
      StateT.run_bind]
    generalize (table.dispatchAllFrom 0 handler tokens).run journal = told at hkept
    obtain ⟨⟨cause | count, next⟩, listener⟩ := told
    · rfl
    · have hnext : tableOf next = table := hkept.tableOf_eq
      have hrest : table.dispatchAllFrom count next more = (do
          let (answer, last) ← (tableOf next).dispatchAllFrom 0 next more
          return (answer.map (count + ·), last)) := by
        rw [hnext]
        exact dispatchAllFrom_count count 0 next more
      exact congrArg (StateT.run · listener) hrest
  · rw [hbatch, dispatchAllVia, hother.tableOf_eq, dispatchAll]
    exact dispatchAllFrom_answer 0 other handler tokens listener journal

-- The third token stops the batch, and the action was carried out twice before it.
theorem dispatchAll_folds_companion :
    ∃ table, ((Handler.compileTable Companion .i8).run .nothing).1 = .ok table ∧
      table.KeptBy (fun _ => table) ⟨[]⟩ ∧
      ((dispatchAllVia (fun _ => table) ⟨[]⟩ ["M", "M", "K1", "M"]).run .nothing).1 =
        (.error (.unknownToken "K1"),
          ⟨["OK having multiple dispatchers.", "OK having multiple dispatchers."]⟩) := by
  have hmethods : Method.Faultless (Handler.methods (H := Companion)) := by decide
  obtain ⟨table, hcompile⟩ := exists_of_faultless hmethods .i8 .nothing
  obtain ⟨set, -, hset, -, rfl⟩ := exists_binds hcompile
  refine ⟨_, hcompile, fun _ _ => rfl, ?_⟩
  let say : Companion → Companion := .say "OK having multiple dispatchers."
  have hmethod : (Method.actionsOf (Handler.methods (H := Companion)))[0]? =
      some (.action "M" say) := rfl
  have hdispatch : ∀ handler journal,
      (((ofMethodSet set .i8).dispatch handler "M").run journal).1 =
        (.ok (.action 0), say handler) :=
    fun handler journal => dispatch_action .i8 hset handler journal hmethod rfl
  have htaken : (ofMethodSet set .i8).route "M" = .ok (.action 0) :=
    (dispatch_answer _ ⟨[]⟩ "M" .nothing).symm.trans (congrArg Prod.fst (hdispatch _ _))
  have hrefused : (ofMethodSet set .i8).route "K1" = .error (.unknownToken "K1") :=
    (dispatch_answer _ ⟨[]⟩ "K1" .nothing).symm.trans (congrArg Prod.fst
      (dispatch_unknown .i8 hset _ _ (by decide) (.inl (by decide)) (by decide)))
  have hkept : (ofMethodSet set .i8).KeptBy (fun _ => ofMethodSet set .i8) ⟨[]⟩ := fun _ _ => rfl
  obtain ⟨-, hstops, -⟩ := dispatchAll_folds hkept ["M", "M", "K1", "M"] .nothing
  have hbatch := hstops 2 "K1" rfl (by simp [htaken]) (by simp [hrefused])
  rw [hbatch]
  simp only [List.take, throughEach_cons, dispatchVia, hdispatch]
  rfl

end Switchboard.Table
