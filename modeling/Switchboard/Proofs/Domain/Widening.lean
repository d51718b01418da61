import Switchboard.Proofs.Domain.Literals
import Switchboard.Proofs.StackMachine.Line
import Switchboard.Proofs.StackMachine.Sequence
import Switchboard.Showcase

namespace Switchboard

section Wider

variable {narrow wide : Domain} (hwidth : narrow.width ≤ wide.width)

include hwidth

namespace Table

variable {H : Type} {set : MethodSet H} {methods : List (Method H)}

-- The actions come first and do not depend on the domain. So a wider one can only take a token away
-- from the string sink, or from nobody, and give it to the integer sink.
theorem target?_widens (set : MethodSet H) (token : String) :
    (ofMethodSet set wide).target? token = (ofMethodSet set narrow).target? token ∨
    ∃ sink value, set.integerSink = some sink ∧ narrow.parse token = none ∧
      wide.parse token = some value ∧
      (ofMethodSet set narrow).target? token = set.stringSink.map (fun sink => .text sink.run) ∧
      (ofMethodSet set wide).target? token = some (.integer value sink.run) := by
  have hactions : (ofMethodSet set wide).actionAt? token =
      (ofMethodSet set narrow).actionAt? token := rfl
  simp only [target?, hactions]
  cases (ofMethodSet set narrow).actionAt? token with
  | some found => exact .inl rfl
  | none =>
      simp only [ofMethodSet]
      cases hsink : set.integerSink with
      | none => exact .inl rfl
      | some sink =>
          cases hnarrow : narrow.parse token with
          | some value =>
              rw [Domain.parse_of_le hwidth hnarrow]
              exact .inl rfl
          | none =>
              cases hwide : wide.parse token with
              | none => exact .inl rfl
              | some value => exact .inr ⟨sink, value, rfl, rfl, rfl, rfl, rfl⟩

theorem route_widens (set : MethodSet H) (token : String) :
    (ofMethodSet set wide).route token = (ofMethodSet set narrow).route token ∨
    ∃ sink value, set.integerSink = some sink ∧ narrow.parse token = none ∧
      wide.parse token = some value ∧
      ((ofMethodSet set narrow).route token = .ok .text ∨
        (ofMethodSet set narrow).route token = .error (.unknownToken token)) ∧
      (ofMethodSet set wide).route token = .ok (.integer value) := by
  obtain hsame | ⟨sink, value, hsink, hnarrow, hwide, hbefore, hafter⟩ :=
    target?_widens hwidth set token
  · exact .inl (by simp only [route, hsame])
  · refine .inr ⟨sink, value, hsink, hnarrow, hwide, ?_, ?_⟩
    · simp only [route, hbefore]
      cases set.stringSink with
      | none => exact .inr rfl
      | some sink => exact .inl rfl
    · simp only [route, hafter]
      rfl

-- Without a string sink, what is taken at all is taken by the same method in the wider domain.
theorem dispatch_widens (hstring : set.stringSink = none) {handler next : H} {token : String}
    {route : Route} {journal : Journal}
    (hdispatch : (((ofMethodSet set narrow).dispatch handler token).run journal).1 =
      (.ok route, next)) (listener : Journal) :
    (((ofMethodSet set wide).dispatch handler token).run listener).1 = (.ok route, next) := by
  obtain hsame | ⟨-, -, -, -, -, hbefore, -⟩ := target?_widens hwidth set token
  · rw [dispatch_outcome] at hdispatch ⊢
    rw [hsame]
    exact hdispatch
  · rw [dispatch_outcome, hbefore, hstring] at hdispatch
    cases hdispatch

end Table

namespace StackMachine

theorem runWords_widens {set : MethodSet StackMachine} (hstring : set.stringSink = none)
    {words : List String} {machine next : StackMachine} {journal : Journal}
    (hrun : ((runWords (.ofMethodSet set narrow) machine words).run journal).1 = (.ok (), next))
    (listener : Journal) :
    ((runWords (.ofMethodSet set wide) machine words).run listener).1 = (.ok (), next) := by
  induction words generalizing machine journal listener with
  | nil => exact hrun
  | cons word rest ih =>
      simp only [runWords, Logged.bind_outcome] at hrun ⊢
      generalize htold : ((Table.ofMethodSet set narrow).dispatch machine word).run journal = told
        at hrun
      obtain ⟨⟨cause | route, middle⟩, further⟩ := told
      · cases hrun
      · have hdispatch := Table.dispatch_widens hwidth hstring (congrArg Prod.fst htold) listener
        rw [hdispatch]
        simp only at hrun ⊢
        cases hfault : middle.fault with
        | some fault =>
            rw [hfault] at hrun
            cases hrun
        | none =>
            rw [hfault] at hrun
            exact ih hrun _

end StackMachine

end Wider

namespace Domain

open Method Numeral

-- All that a wider domain changes is that some more tokens are integers, and these went to the
-- string sink before, or nowhere. So the stack machine goes through every line that it went through
-- before, and comes to the same.
theorem widening_adds_integers {narrow wide : Domain} (hwidth : narrow.width ≤ wide.width)
    (journal : Journal) :
    (∀ {H : Type} {methods : List (Method H)} {table : Table H},
      ((Table.compile methods narrow).run journal).1 = .ok table →
      ∃ wideTable, ((Table.compile methods wide).run journal).1 = .ok wideTable ∧ ∀ token,
        (∀ slot, table.route token = .ok (.action slot) →
          wideTable.route token = .ok (.action slot)) ∧
        (∀ value, table.route token = .ok (.integer value) →
          wideTable.route token = .ok (.integer value)) ∧
        (wideTable.route token ≠ table.route token →
          (table.route token = .ok .text ∨ table.route token = .error (.unknownToken token)) ∧
          ∃ value, wideTable.route token = .ok (.integer value) ∧
            narrow.range.contains value.toInt = false) ∧
        ((∀ method ∈ methods, method.name ≠ "ParseInt") →
          wideTable.route token = table.route token)) ∧
    ∃ table wideTable,
      ((Handler.compileTable StackMachine narrow).run journal).1 = .ok table ∧
      ((Handler.compileTable StackMachine wide).run journal).1 = .ok wideTable ∧
      ∀ machine line listener further next,
        ((StackMachine.runLine table machine line).run listener).1 = (.ok (), next) →
        ((StackMachine.runLine wideTable machine line).run further).1 = (.ok (), next) := by
  refine ⟨?_, ?_⟩
  · intro H methods table hcompile
    obtain ⟨set, hset, hbinds, -, rfl⟩ := Table.exists_binds hcompile
    refine ⟨.ofMethodSet set wide, by rw [Table.compile_outcome, hset]; rfl, fun token => ?_⟩
    obtain hsame | ⟨sink, value, hsink, hnarrow, hwide, hbefore, hafter⟩ :=
      Table.route_widens hwidth set token
    · rw [hsame]
      exact ⟨fun _ h => h, fun _ h => h, fun h => absurd rfl h, fun _ => rfl⟩
    · have honly : ∀ route, (Table.ofMethodSet set narrow).route token = .ok route →
          route = .text := by
        intro route h
        rcases hbefore with hbefore | hbefore
        · exact Except.ok.inj (h.symm.trans hbefore)
        · cases h.symm.trans hbefore
      rw [hafter]
      refine ⟨fun slot h => ?_, fun other h => ?_, fun _ => ⟨hbefore, value, rfl, ?_⟩, fun h => ?_⟩
      · cases honly _ h
      · cases honly _ h
      · exact parse_eq_none_iff.mp hnarrow value.toInt (parse_eq_some_iff.mp hwide).1
      · cases (hbinds.integer.eq_none h).symm.trans hsink
  · obtain ⟨table, hcompile⟩ :=
      Table.exists_of_faultless StackMachine.methods_faultless narrow journal
    obtain ⟨set, hset, hbinds, -, rfl⟩ := Table.exists_binds hcompile
    have hstring : set.stringSink = none := hbinds.string.eq_none (by decide)
    refine ⟨_, .ofMethodSet set wide, hcompile,
      (Table.compile_outcome _ wide journal).trans (by rw [hset]; rfl), ?_⟩
    intro machine line listener further next hrun
    rw [StackMachine.runLine_words _ machine line _ further] at hrun ⊢
    exact StackMachine.runWords_widens hwidth hstring hrun further

-- What is text to eight bits can be a number to more of them, and a sum goes on as it did.
theorem widening_adds_integers_showcase :
    ∃ table wideTable,
      ((Table.compile (Handler.methods (H := Showcase)) .i8).run .nothing).1 = .ok table ∧
      ((Table.compile (Handler.methods (H := Showcase)) .i32).run .nothing).1 = .ok wideTable ∧
      table.route "300" = .ok .text ∧ wideTable.route "300" = .ok (.integer 300) ∧
      Domain.i8.range.contains 300 = false ∧
    ∃ line wideLine next,
      ((Handler.compileTable StackMachine .i8).run .nothing).1 = .ok line ∧
      ((Handler.compileTable StackMachine .i32).run .nothing).1 = .ok wideLine ∧
      ((StackMachine.runLine line .empty "100 -27 + .").run .nothing).1 = (.ok (), next) ∧
      ((StackMachine.runLine wideLine .empty "100 -27 + .").run .nothing).1 = (.ok (), next) ∧
      next.slate = ⟨[], "73 "⟩ := by
  have hwidth : Domain.i8.width ≤ Domain.i32.width := by decide
  obtain ⟨hroutes, line, wideLine, hline, hwideLine, hlines⟩ :=
    widening_adds_integers hwidth .nothing
  have hshowcase : Faultless (Handler.methods (H := Showcase)) := by decide
  obtain ⟨table, hcompile⟩ := Table.exists_of_faultless hshowcase .i8 .nothing
  obtain ⟨wideTable, hwide, htokens⟩ := hroutes hcompile
  refine ⟨table, wideTable, hcompile, hwide, ?_⟩
  obtain ⟨set, hset, hbinds, -, rfl⟩ := Table.exists_binds hcompile
  have hfree : ∀ method ∈ actionsOf (Handler.methods (H := Showcase)), method.token ≠ "300" := by
    decide
  have htext : (Table.ofMethodSet set .i8).route "300" = .ok .text := by
    obtain ⟨sink, hsink, -⟩ :=
      hbinds.string.exists_run (List.mem_of_getElem? (i := 5) rfl) (by decide)
    rw [Table.route, Table.target?_text .i8 hbinds hfree (.inr (by decide)), hsink]
    rfl
  have hinteger : (Table.ofMethodSet set .i32).route "300" = .ok (.integer 300) := by
    have hvalue : Domain.i32.parse "300" = some 300 := by decide
    obtain ⟨run, -, htarget⟩ := Table.target?_integer .i32 hbinds hfree
      (List.mem_of_getElem? (i := 4) rfl) (by decide) hvalue
    rw [Table.route, htarget]
    rfl
  rw [Table.compile_outcome, hset] at hwide
  obtain rfl := Except.ok.inj hwide
  obtain ⟨-, -, hdiffers, -⟩ := htokens "300"
  obtain ⟨-, value, hvalue, houtside⟩ := hdiffers (by rw [htext, hinteger]; decide)
  cases hinteger.symm.trans hvalue
  refine ⟨htext, hinteger, houtside, line, wideLine, ?_⟩
  obtain ⟨words, -, hwords, -, rfl⟩ := Table.exists_binds hline
  have happly : ["100", "-27", "+", "."].foldlM (Slate.apply .i8) StackMachine.empty.slate =
      .ok ⟨[], "73 "⟩ := rfl
  obtain ⟨next, -, hslate, hrun⟩ := StackMachine.runWords_ok hwords .nothing rfl happly
  have hsplit : Text.words "100 -27 + ." = ["100", "-27", "+", "."] := by decide
  have hsum : ((StackMachine.runLine (.ofMethodSet words .i8) .empty "100 -27 + .").run
      .nothing).1 = (.ok (), next) := by
    rw [StackMachine.runLine_words _ _ _ _ .nothing, hsplit, hrun]
  exact ⟨next, hline, hwideLine, hsum, hlines _ _ _ .nothing next hsum, hslate⟩

end Domain

end Switchboard
