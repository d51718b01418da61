import Switchboard.Summary
import Switchboard.Proofs.Table.Index
import Switchboard.Proofs.Text.Words
import Mathlib.Data.List.DropRight
import Mathlib.Order.Bounds.Basic

namespace Switchboard

open Method

theorem not_mem_of_isIdentifier {name : String} (hname : isIdentifier name = true) :
    ' ' ∉ name.toList ∧ '\n' ∉ name.toList := by
  have hspace : ¬(' ' = '_' ∨ Text.isLetterOrNumber ' ' = true) := by decide
  have hbreak : ¬('\n' = '_' ∨ Text.isLetterOrNumber '\n' = true) := by decide
  exact ⟨fun hmem => hspace (eq_underscore_or_isLetterOrNumber hname hmem),
    fun hmem => hbreak (eq_underscore_or_isLetterOrNumber hname hmem)⟩

section

variable {front name text : List Char}

theorem rdropWhile_word (hname : ' ' ∉ name) :
    (front ++ [' '] ++ name).rdropWhile (· ≠ ' ') = front ++ [' '] := by
  induction name using List.reverseRecOn with
  | nil => rw [List.append_nil, List.rdropWhile_concat_neg]; simp
  | append_singleton name c ih =>
      have hc : c ≠ ' ' := fun heq => hname (by simp [heq])
      rw [← List.append_assoc, List.rdropWhile_concat_pos _ _ _ (by simpa using hc)]
      exact ih fun hmem => hname (List.mem_append_left _ hmem)

theorem rtakeWhile_word (hname : ' ' ∉ name) :
    (front ++ [' '] ++ name).rtakeWhile (· ≠ ' ') = name := by
  have hsplit := List.rdropWhile_append_rtakeWhile (p := (· ≠ ' ')) (l := front ++ [' '] ++ name)
  rw [rdropWhile_word hname] at hsplit
  exact List.append_cancel_left hsplit

theorem rdropWhile_padding (htext : text.getLast? ≠ some ' ') (count : Nat) :
    (text ++ List.replicate count ' ').rdropWhile (· = ' ') = text := by
  induction count with
  | zero =>
      rw [List.replicate_zero, List.append_nil, List.rdropWhile_eq_self_iff]
      intro hne
      simpa [List.getLast?_eq_some_getLast hne] using htext
  | succ count ih =>
      rw [List.replicate_succ', ← List.append_assoc, List.rdropWhile_concat_pos _ _ _ (by simp), ih]

end

namespace ActionSummary

-- Reads the line of an action from its end, since a token may itself hold spaces and arrows. The
-- method is what follows the last space.
def ofLine (line : String) : ActionSummary where
  token := String.ofList
    (((line.toList.rdropWhile (· ≠ ' ')).rdrop "  -> ".length).rdropWhile (· = ' '))
  method := String.ofList (line.toList.rtakeWhile (· ≠ ' '))

-- The method of an action is an identifier, and so the one word after the arrow.
structure Named (action : ActionSummary) : Prop where
  unspaced : ' ' ∉ action.method.toList
  unbroken : '\n' ∉ action.method.toList

end ActionSummary

namespace Summary

theorem toList_actionLine (width : Nat) (action : ActionSummary) :
    (actionLine width action).toList =
      action.token.toList ++ List.replicate (width - action.token.length) ' ' ++
        "  -> ".toList ++ action.method.toList := by
  simp [actionLine, padRight]

theorem ofLine_actionLine {width : Nat} {action : ActionSummary} (hnamed : action.Named)
    (htoken : action.token.toList.getLast? ≠ some ' ') :
    ActionSummary.ofLine (actionLine width action) = action := by
  obtain ⟨token, method⟩ := action
  have harrow : "  -> ".toList = "  ->".toList ++ [' '] := rfl
  have hlength : "  -> ".length = ("  ->".toList ++ [' ']).length := rfl
  rw [ActionSummary.ofLine, toList_actionLine, harrow, ← List.append_assoc,
    rtakeWhile_word hnamed.unspaced, rdropWhile_word hnamed.unspaced, List.append_assoc, hlength,
    List.rdrop_append_length, rdropWhile_padding htoken, String.ofList_toList,
    String.ofList_toList]

theorem foldl_max_le_iff (actions : List ActionSummary) (start bound : Nat) :
    actions.foldl (fun width action => max width action.token.length) start ≤ bound ↔
      start ≤ bound ∧ ∀ action ∈ actions, action.token.length ≤ bound := by
  induction actions generalizing start with
  | nil => simp
  | cons action rest ih =>
      rw [List.foldl_cons, ih, Nat.max_le, and_assoc, List.forall_mem_cons]

theorem tokenWidth_le_iff (summary : Summary) (bound : Nat) :
    summary.tokenWidth ≤ bound ↔ ∀ action ∈ summary.actions, action.token.length ≤ bound := by
  rw [tokenWidth, foldl_max_le_iff]
  exact and_iff_right (Nat.zero_le bound)

theorem tokenWidth_eq {summary : Summary} {width : Nat}
    (hwidth : IsGreatest {length | ∃ action ∈ summary.actions, action.token.length = length}
      width) :
    summary.tokenWidth = width := by
  apply le_antisymm
  · rw [tokenWidth_le_iff]
    exact fun action hmem => hwidth.2 ⟨action, hmem, rfl⟩
  · obtain ⟨action, hmem, rfl⟩ := hwidth.1
    exact (tokenWidth_le_iff summary _).mp le_rfl action hmem

-- What a compiled table lists: the method of an action is an identifier, and a sink has the one
-- name that is reserved for it.
structure Bound (summary : Summary) : Prop where
  named : ∀ action ∈ summary.actions, action.Named
  integer : summary.integerSink = none ∨ summary.integerSink = some integerSinkName
  text : summary.stringSink = none ∨ summary.stringSink = some stringSinkName

-- Each token stays on its line, and none is wider than a text can be padded to.
structure Listable (summary : Summary) : Prop where
  unbroken : ∀ action ∈ summary.actions, '\n' ∉ action.token.toList
  narrow : ∀ action ∈ summary.actions, action.token.length ≤ 65535

-- Padding can only be told from a token that does not end in it.
def Unpadded (summary : Summary) : Prop :=
  ∀ action ∈ summary.actions, action.token.toList.getLast? ≠ some ' '

namespace Bound

variable {summary other : Summary}

theorem integerLine_unbroken (h : summary.Bound) : '\n' ∉ summary.integerLine.toList := by
  rcases h.integer with hsink | hsink
  · simp only [integerLine, hsink]
    decide
  · simp only [integerLine, hsink]
    cases summary.domain <;> decide

theorem stringLine_unbroken (h : summary.Bound) : '\n' ∉ summary.stringLine.toList := by
  rcases h.text with hsink | hsink
  · simp only [stringLine, hsink]
    decide
  · simp only [stringLine, hsink]
    decide

theorem of_integerLine_eq (h : summary.Bound) (hother : other.Bound)
    (hline : summary.integerLine = other.integerLine) :
    summary.integerSink = other.integerSink ∧
      (summary.integerSink.isSome → summary.domain = other.domain) := by
  have hunbound : ∀ domain : Domain,
      "integers (" ++ domain.name ++ ") -> " ++ integerSinkName ≠ "integers -> (none)" := by
    intro domain
    cases domain <;> decide
  have hdomains : ∀ domain domain' : Domain,
      "integers (" ++ domain.name ++ ") -> " ++ integerSinkName =
        "integers (" ++ domain'.name ++ ") -> " ++ integerSinkName → domain = domain' := by
    intro domain domain'
    cases domain <;> cases domain' <;> decide
  rcases h.integer with hsink | hsink <;> rcases hother.integer with hsink' | hsink' <;>
    simp only [integerLine, hsink, hsink'] at hline ⊢
  · exact ⟨trivial, nofun⟩
  · exact absurd hline.symm (hunbound _)
  · exact absurd hline (hunbound _)
  · exact ⟨trivial, fun _ => hdomains _ _ hline⟩

theorem of_stringLine_eq (h : summary.Bound) (hother : other.Bound)
    (hline : summary.stringLine = other.stringLine) :
    summary.stringSink = other.stringSink := by
  have hunbound : "strings -> " ++ stringSinkName ≠ "strings -> (none)" := by decide
  rcases h.text with hsink | hsink <;> rcases hother.text with hsink' | hsink' <;>
    simp only [stringLine, hsink, hsink'] at hline ⊢
  · exact absurd hline.symm hunbound
  · exact absurd hline hunbound

theorem lines_unbroken (h : summary.Bound) (hlist : summary.Listable) :
    ∀ line ∈ summary.lines, '\n' ∉ line.toList := by
  intro line hmem
  rcases List.mem_append.mp hmem with hmem | hmem
  · obtain ⟨action, haction, rfl⟩ := List.mem_map.mp hmem
    have htoken := hlist.unbroken action haction
    have hmethod := (h.named action haction).unbroken
    simp [toList_actionLine, htoken, hmethod, List.mem_replicate]
  · simp only [List.mem_cons, List.not_mem_nil, or_false] at hmem
    rcases hmem with rfl | rfl
    · exact h.integerLine_unbroken
    · exact h.stringLine_unbroken

theorem partsAt_describe (h : summary.Bound) (hlist : summary.Listable) :
    Text.partsAt '\n' summary.describe = summary.lines :=
  Text.partsAt_intercalate (by simp [lines]) (h.lines_unbroken hlist)

-- A listing has a line for each action and two more, with the methods of the actions in one
-- column.
theorem describe_columns (h : summary.Bound) (hlist : summary.Listable) :
    let lines := Text.partsAt '\n' summary.describe
    lines.length = summary.actions.length + 2 ∧
    ∀ (slot : Nat) (action : ActionSummary), summary.actions[slot]? = some action →
      ∃ front : String, lines[slot]? = some (front ++ action.method) ∧
        front.length = summary.tokenWidth + 5 := by
  rw [h.partsAt_describe hlist]
  refine ⟨by simp [lines], fun slot action haction => ?_⟩
  have hlt : slot < summary.actions.length := (List.getElem?_eq_some_iff.mp haction).1
  have hwide : action.token.length ≤ summary.tokenWidth :=
    (tokenWidth_le_iff summary _).mp le_rfl action (List.mem_of_getElem? haction)
  refine ⟨padRight summary.tokenWidth action.token ++ "  -> ", ?_, ?_⟩
  · rw [lines, List.getElem?_append_left (by simpa using hlt), List.getElem?_map, haction]
    rfl
  · simp only [padRight, String.length_append, String.length_ofList, List.length_replicate]
    have harrow : "  -> ".length = 5 := rfl
    omega

theorem of_describe_eq (h : summary.Bound) (hlist : summary.Listable) (hpad : summary.Unpadded)
    (hother : other.Bound) (hotherlist : other.Listable) (hotherpad : other.Unpadded)
    (hdescribe : summary.describe = other.describe) :
    summary.actions = other.actions ∧ summary.integerSink = other.integerSink ∧
      summary.stringSink = other.stringSink ∧
      (summary.integerSink.isSome → summary.domain = other.domain) := by
  have hlines : summary.lines = other.lines := by
    rw [← h.partsAt_describe hlist, hdescribe, hother.partsAt_describe hotherlist]
  obtain ⟨hactions, hsinks⟩ := List.append_inj' hlines rfl
  simp only [List.cons.injEq, and_true] at hsinks
  obtain ⟨hinteger, hdomain⟩ := h.of_integerLine_eq hother hsinks.1
  have hread {summary : Summary} (h : summary.Bound) (hpad : summary.Unpadded) :
      (summary.actions.map (actionLine summary.tokenWidth)).map ActionSummary.ofLine =
        summary.actions := by
    rw [List.map_map]
    exact List.map_congr_left (fun action hmem =>
      ofLine_actionLine (h.named action hmem) (hpad action hmem)) |>.trans (List.map_id _)
  refine ⟨?_, hinteger, h.of_stringLine_eq hother hsinks.2, hdomain⟩
  rw [← hread h hpad, hactions, hread hother hotherpad]

end Bound

end Summary

theorem BoundSink.Fills.method_eq {H F : Type} {methods : List (Method H)} {kind : SinkKind}
    {pick : Binding H → Option F} {place : Option (BoundSink F)}
    (h : Fills methods kind pick place) :
    place.map (·.method) = none ∨ place.map (·.method) = some kind.methodName := by
  cases place with
  | none => exact .inl rfl
  | some sink =>
      obtain ⟨method, -, hname, hmethod, -⟩ := h
      exact .inr (by rw [Option.map_some, hmethod, hname])

theorem Method.isIdentifier_of_mem_actionsOf {H : Type} {methods : List (Method H)}
    {method : Method H} (hmem : method ∈ actionsOf methods) : isIdentifier method.name = true := by
  have hrole : method.role = .action := of_decide_eq_true (List.mem_filter.mp hmem).2
  unfold role at hrole
  split_ifs at hrole with _ _ _ haction
  exact (Bool.and_eq_true_iff.mp haction).1

namespace Table

variable {H K : Type} {methods : List (Method H)} {domain : Domain} {table : Table H}
  {journal : Journal}

theorem summary_actions (h : ((compile methods domain).run journal).1 = .ok table) :
    table.summary.actions =
      (actionsOf methods).map fun method => ⟨method.token, method.name⟩ := by
  obtain ⟨set, -, hset, -, rfl⟩ := exists_binds h
  exact hset.actions_map_eq ActionSummary.mk

theorem summary_bound (h : ((compile methods domain).run journal).1 = .ok table) :
    table.summary.Bound := by
  refine ⟨fun action hmem => ?_, ?_, ?_⟩
  · rw [summary_actions h] at hmem
    obtain ⟨method, hmethod, rfl⟩ := List.mem_map.mp hmem
    have hname := not_mem_of_isIdentifier (isIdentifier_of_mem_actionsOf hmethod)
    exact ⟨hname.1, hname.2⟩
  · obtain ⟨set, -, hset, -, rfl⟩ := exists_binds h
    exact hset.integer.method_eq
  · obtain ⟨set, -, hset, -, rfl⟩ := exists_binds h
    exact hset.string.method_eq

-- The listing of a table holds a line for each action and one for each sink, and every method of
-- an action stands in the same column. Two tables with the same listing do the same under the
-- same tokens, as far as their summaries tell.
theorem describe_unambiguous (h : ((compile methods domain).run journal).1 = .ok table)
    (hlist : table.summary.Listable) :
    let lines := Text.partsAt '\n' table.summary.describe
    (lines.length = table.summary.actions.length + 2 ∧
      ∀ width,
        IsGreatest {length | ∃ action ∈ table.summary.actions, action.token.length = length} width →
        ∀ (slot : Nat) (action : ActionSummary), table.summary.actions[slot]? = some action →
          ∃ front : String, lines[slot]? = some (front ++ action.method) ∧
            front.length = width + 5) ∧
    ∀ (others : List (Method K)) otherDomain further other,
      ((compile others otherDomain).run further).1 = .ok other → other.summary.Listable →
      table.summary.Unpadded → other.summary.Unpadded →
      table.summary.describe = other.summary.describe →
        table.summary.actions = other.summary.actions ∧
        table.summary.integerSink = other.summary.integerSink ∧
        table.summary.stringSink = other.summary.stringSink ∧
        (table.summary.integerSink.isSome → table.summary.domain = other.summary.domain) := by
  have hbound := summary_bound h
  obtain ⟨hlength, hcolumns⟩ := hbound.describe_columns hlist
  refine ⟨⟨hlength, fun width hwidth => ?_⟩, ?_⟩
  · rwa [Summary.tokenWidth_eq hwidth] at hcolumns
  · intro others otherDomain further other hother hotherlist hpad hotherpad hdescribe
    exact hbound.of_describe_eq hlist hpad (summary_bound hother) hotherlist hotherpad hdescribe

-- Two methods behind tokens that look like parts of a listing.
theorem describe_unambiguous_arrows :
    ∃ table : Table Unit,
      ((compile [(Method.action "größe" Told.silent).answersTo "1  -> 2",
        Method.action "plus" Told.silent] .i8).run .nothing).1 = .ok table ∧
      (Text.partsAt '\n' table.summary.describe).length = 4 ∧
      (∃ front : String, (Text.partsAt '\n' table.summary.describe)[1]? =
        some (front ++ "plus") ∧ front.length = 12) ∧
      ∀ (others : List (Method Unit)) otherDomain further other,
        ((compile others otherDomain).run further).1 = .ok other → other.summary.Listable →
        other.summary.Unpadded → table.summary.describe = other.summary.describe →
          other.summary.actions = [⟨"1  -> 2", "größe"⟩, ⟨"plus", "plus"⟩] := by
  have hmethods : Faultless [(Method.action (H := Unit) "größe" Told.silent).answersTo "1  -> 2",
      Method.action "plus" Told.silent] := by decide
  obtain ⟨table, h⟩ := exists_of_faultless hmethods .i8 .nothing
  have hactions : table.summary.actions = [⟨"1  -> 2", "größe"⟩, ⟨"plus", "plus"⟩] :=
    summary_actions h
  have hlist : table.summary.Listable := by
    constructor <;> rw [hactions] <;> decide
  have hpad : table.summary.Unpadded := by
    rw [Summary.Unpadded, hactions]
    decide
  obtain ⟨⟨hlength, hcolumns⟩, hothers⟩ := describe_unambiguous (K := Unit) h hlist
  rw [hactions] at hlength hcolumns
  have hwidth : IsGreatest
      {length | ∃ action ∈ table.summary.actions, action.token.length = length} 7 := by
    rw [hactions]
    refine ⟨⟨_, List.mem_cons_self, rfl⟩, ?_⟩
    rintro _ ⟨action, hmem, rfl⟩
    revert action
    decide
  rw [hactions] at hwidth
  refine ⟨table, h, hlength, hcolumns 7 hwidth 1 _ rfl, ?_⟩
  intro others otherDomain further other hother hotherlist hotherpad hdescribe
  have hsame := hothers others otherDomain further other hother hotherlist hpad hotherpad hdescribe
  rw [← hsame.1, hactions]

end Table

end Switchboard
