import Switchboard.Command.Report
import Switchboard.Proofs.StackMachine.Postfix
import Switchboard.Proofs.StackMachine.Sequence

namespace Switchboard

namespace Text

-- A gap at the end goes, and nothing else does, if what is in front of it ends in no blank.
theorem trimEnd_append_space {text : String} (h : ∀ c ∈ text.toList.getLast?, isBlank c = false) :
    trimEnd (text ++ " ") = text := by
  have hreverse : (text ++ " ").toList.reverse = ' ' :: text.toList.reverse := by simp
  rw [trimEnd, hreverse, List.dropWhile_cons_of_pos (by decide)]
  have hkept : text.toList.reverse.dropWhile isBlank = text.toList.reverse := by
    rw [List.getLast?_eq_head?_reverse] at h
    cases hchars : text.toList.reverse with
    | nil => rfl
    | cons c rest =>
        rw [hchars] at h
        rw [List.dropWhile_cons_of_neg (by simp [h c rfl])]
  rw [hkept, List.reverse_reverse, String.ofList_toList]

end Text

namespace Numeral

theorem is_word_toString (value : Int) :
    toString value ≠ "" ∧ ∀ c ∈ (toString value).toList, Text.isBlank c = false :=
  ⟨by simpa using (spells_toString value).ne_nil, (spells_toString value).not_blank⟩

end Numeral

namespace StackMachine

-- The cells as they are printed, each with a blank behind it.
def printout (cells : List Int64) : String :=
  String.join ((Report.cellTexts cells).map fun text => text ++ " ")

theorem printout_append (first rest : List Int64) :
    printout (first ++ rest) = printout first ++ printout rest := by
  simp [printout, Report.cellTexts]

theorem words_printout (cells : List Int64) :
    Text.words (printout cells) = Report.cellTexts cells := by
  induction cells with
  | nil => rfl
  | cons cell rest ih =>
      obtain ⟨hne, hcell⟩ := Numeral.is_word_toString cell.toInt
      have hsplit : printout (cell :: rest) = toString cell.toInt ++ " " ++ printout rest := by
        simp [printout, Report.cellTexts]
      rw [hsplit, Text.words_append (by decide) Text.isBlank_of_mem_space, ih,
        Text.words_of_not_blank hne hcell]
      rfl

theorem trimEnd_printout {cells : List Int64} (hne : cells ≠ []) :
    Text.trimEnd (printout cells) ++ " " = printout cells := by
  obtain ⟨front, last, rfl⟩ := (List.eq_nil_or_concat' cells).resolve_left hne
  obtain ⟨hlast, hword⟩ := Numeral.is_word_toString last.toInt
  have hsplit : printout (front ++ [last]) = printout front ++ toString last.toInt ++ " " := by
    simp [printout, Report.cellTexts, String.append_assoc]
  have hend : ∀ c ∈ (printout front ++ toString last.toInt).toList.getLast?,
      Text.isBlank c = false := by
    intro c hc
    rw [String.toList_append, List.getLast?_append_of_ne_nil _ (by simpa using hlast)] at hc
    exact hword c (List.mem_of_getLast? hc)
  rw [hsplit, Text.trimEnd_append_space hend]

-- What a word takes off the stack to print it.
def popped (machine : StackMachine) (word : String) : List Int64 :=
  if word = "." then machine.stack.head?.toList else []

section Words

variable {machine : StackMachine} {domain : Domain} {word : String} {s : Slate}

theorem popped_of_ne (hword : word ≠ ".") : machine.popped word = [] := if_neg hword

-- Only what is popped to be printed gets to the output.
theorem output_of_apply (h : machine.slate.apply domain word = .ok s) :
    s.output = machine.output ++ printout (machine.popped word) := by
  have hquiet : word ≠ "." → machine.output = machine.output ++ printout (machine.popped word) := by
    intro hword
    rw [popped_of_ne hword]
    exact String.append_empty.symm
  have hstep := machine.slate.step_apply domain word
  rw [h] at hstep
  cases hstep with
  | operated hop => exact hquiet (by rintro rfl; cases hop)
  | printed hword hstack =>
      obtain ⟨cell, cells, hcells, rfl, -⟩ := List.map_eq_cons_iff.mp hstack
      subst hword
      simp [popped, hcells, printout, Report.cellTexts, slate, String.append_assoc]
  | dropped hword => exact hquiet (by rw [hword]; decide)
  | doubled hword => exact hquiet (by rw [hword]; decide)
  | counted hword => exact hquiet (by rw [hword]; decide)
  | swapped hword => exact hquiet (by rw [hword]; decide)
  | number hword => exact hquiet (by rintro rfl; exact hword (by decide))

theorem popped_of_error {fault : StackFault} (h : machine.slate.apply domain word = .error fault) :
    machine.popped word = [] := by
  by_cases hword : word = "."
  · have hstep := machine.slate.step_apply domain word
    rw [h] at hstep
    subst hword
    cases hstep with
    | short hshort =>
        have hempty : machine.stack = [] := by simpa [slate, Slate.needed] using hshort
        simp [popped, hempty]
    | divided hword => simp at hword
    | unknown hword => exact absurd (by decide) hword
  · exact popped_of_ne hword

end Words

-- What the words of a line pop to print it, each from the stack that the words before have left, up
-- to the word that ends the line.
def poppedIn (table : Table StackMachine) : StackMachine → List String → List Int64
  | _, [] => []
  | machine, word :: rest =>
      machine.popped word ++
        match ((runWords table machine [word]).run .nothing).1 with
        | (.ok (), next) => poppedIn table next rest
        | (.error _, _) => []

-- A machine after some lines, each of which may have failed, with all that was popped to be printed
-- since the output was last taken.
inductive Session (table : Table StackMachine) : List Int64 → StackMachine → Prop where
  | fresh : Session table [] empty
  | line {popped : List Int64} {machine : StackMachine} (h : Session table popped machine)
      (line : String) (journal : Journal) :
      Session table (popped ++ poppedIn table machine (Text.words line))
        ((runLine table machine line).run journal).1.2
  | taken {popped : List Int64} {machine : StackMachine} (h : Session table popped machine) :
      Session table [] machine.takeOutput.2

section Lines

variable {set : MethodSet StackMachine} (hset : set.Binds (Handler.methods (H := StackMachine)))
  {domain : Domain} {machine : StackMachine}

include hset

theorem output_runWords (hclean : machine.fault = none) (words : List String) (journal : Journal) :
    let next := ((runWords (.ofMethodSet set domain) machine words).run journal).1.2
    next.output =
      machine.output ++ printout (poppedIn (.ofMethodSet set domain) machine words) := by
  induction words generalizing machine journal with
  | nil => exact String.append_empty.symm
  | cons word rest ih =>
      cases happly : machine.slate.apply domain word with
      | error fault =>
          have hsingle := runWords_cons_error hset .nothing hclean happly []
          rw [runWords_cons_error hset journal hclean happly rest, poppedIn, hsingle,
            popped_of_error happly]
          exact String.append_empty.symm
      | ok s =>
          obtain ⟨next, listener, hnext, rfl, hrun⟩ :=
            runWords_cons_ok hset .nothing hclean happly []
          have hsingle : ((runWords (.ofMethodSet set domain) machine [word]).run .nothing).1 =
              (.ok (), next) := hrun
          have hwords := runWords_andThen (.ofMethodSet set domain) machine [word] rest journal
            .nothing journal
          rw [List.singleton_append, hsingle] at hwords
          have houtput : next.output = machine.output ++ printout (machine.popped word) :=
            output_of_apply happly
          have hrest := ih hnext journal
          simp only [hwords, andThen, poppedIn, hsingle, printout_append]
          rw [hrest, houtput, String.append_assoc]

theorem Session.clean {popped : List Int64}
    (h : Session (.ofMethodSet set domain) popped machine) : machine.fault = none := by
  induction h with
  | fresh => rfl
  | @line popped machine h line journal ih =>
      rw [runLine_words _ _ _ journal journal]
      exact (runWords_charged hset journal ih domain _).1
  | taken h ih => exact ih

theorem Session.output_eq {popped : List Int64}
    (h : Session (.ofMethodSet set domain) popped machine) : machine.output = printout popped := by
  induction h with
  | fresh => rfl
  | @line popped machine h line journal ih =>
      rw [runLine_words _ _ _ journal journal, output_runWords hset (h.clean hset), ih,
        printout_append]
  | taken h => rfl

end Lines

-- A stack that is shown as a line

theorem words_cellTexts (cells : List Int64) :
    Text.words (" ".intercalate (Report.cellTexts cells)) = Report.cellTexts cells := by
  refine Text.words_spaced fun word hword => ?_
  obtain ⟨cell, -, rfl⟩ := List.mem_map.mp hword
  exact Numeral.is_word_toString cell.toInt

theorem apply_cellText (domain : Domain) (s : Slate) (cell : Int64) :
    s.apply domain (toString cell.toInt) =
      if domain.range.contains cell.toInt = true then .ok { s with stack := cell.toInt :: s.stack }
      else .error (.unroutable (.unknownToken (toString cell.toInt))) := by
  have hword : toString cell.toInt ∉ Slate.vocabulary :=
    (Literal.ofCell cell (Domain.contains_i64 cell)).not_mem_vocabulary
  rw [Slate.apply_number hword]
  by_cases hcell : domain.range.contains cell.toInt = true
  · rw [Domain.parse_toString hcell, if_pos hcell]
  · rw [Domain.parse_toString_eq_none (by simpa using hcell), if_neg hcell]

theorem foldlM_cellTexts {domain : Domain} {cells : List Int64}
    (hcells : ∀ cell ∈ cells, domain.range.contains cell.toInt = true) (s : Slate) :
    (Report.cellTexts cells).foldlM (Slate.apply domain) s =
      .ok { s with stack := (cells.map Int64.toInt).reverse ++ s.stack } := by
  induction cells generalizing s with
  | nil => rfl
  | cons cell rest ih =>
      have happly := apply_cellText domain s cell
      rw [if_pos (hcells cell List.mem_cons_self)] at happly
      have hrest := ih (fun other hmem => hcells other (List.mem_cons_of_mem cell hmem))
        { s with stack := cell.toInt :: s.stack }
      rw [Report.cellTexts, List.map_cons, foldlM_apply_cons happly]
      refine hrest.trans ?_
      simp

theorem cells_of_slate {machine next : StackMachine} {cells : List Int64}
    (h : next.slate =
      { machine.slate with stack := (cells.map Int64.toInt).reverse ++ machine.slate.stack }) :
    next.cells = machine.cells ++ cells ∧ next.output = machine.output := by
  obtain ⟨hstack, houtput⟩ := Slate.mk.inj h
  have hinjective : Function.Injective Int64.toInt := fun _ _ => Int64.toInt_inj.mp
  have hcells : next.stack = cells.reverse ++ machine.stack := by
    refine List.map_injective_iff.mpr hinjective (hstack.trans ?_)
    simp [slate]
  exact ⟨by simp [StackMachine.cells, hcells], houtput⟩

-- What a machine shows can be read again. The line that tells of a stack puts the same cells on any
-- stack, up to the first that is no number of the domain. And what was printed since the output was
-- last taken says, between its blanks, which numbers were popped to be printed.
theorem runLine_rereads (domain : Domain) (journal : Journal) :
    ∃ table, ((Handler.compileTable StackMachine domain).run journal).1 = .ok table ∧
    (∀ machine cells listener, machine.fault = none →
      let line := " ".intercalate (Report.cellTexts cells)
      let answer := ((runLine table machine line).run listener).1
      (cells ≠ [] → ∀ printed, ∃ before, (Report.stack printed cells).forPeople =
        before ++ [Report.lineWrite ("stack: " ++ line)]) ∧
      ((∀ cell ∈ cells, domain.range.contains cell.toInt = true) →
        answer.1 = .ok () ∧ answer.2.cells = machine.cells ++ cells ∧
          answer.2.output = machine.output) ∧
      ∀ before cell after, cells = before ++ cell :: after →
        (∀ other ∈ before, domain.range.contains other.toInt = true) →
        domain.range.contains cell.toInt = false →
        answer.1 = .error (.unroutable (.unknownToken (toString cell.toInt))) ∧
          answer.2.cells = machine.cells ++ before ∧ answer.2.output = machine.output) ∧
    ∀ popped machine, Session table popped machine →
      (Text.words machine.takeOutput.1).map Domain.i64.parse = popped.map some ∧
      (machine.takeOutput.1 ≠ "" →
        Text.trimEnd machine.takeOutput.1 ++ " " = machine.takeOutput.1) := by
  obtain ⟨table, hcompile⟩ := Table.exists_of_faultless methods_faultless domain journal
  obtain ⟨set, -, hset, -, rfl⟩ := Table.exists_binds hcompile
  refine ⟨_, hcompile, ?_, ?_⟩
  · intro machine cells listener hclean line answer
    have hcharged := runLine_charged hset hclean domain line listener
    rw [words_cellTexts] at hcharged
    refine ⟨fun hne printed => ?_, fun hcells => ?_, ?_⟩
    · have hshown : ¬cells.isEmpty = true := by simpa using hne
      rw [Report.forPeople, if_neg hshown]
      exact ⟨_, rfl⟩
    · obtain ⟨hok, hslate⟩ := hcharged.unique (.nothing (foldlM_cellTexts hcells machine.slate))
      exact ⟨hok, cells_of_slate hslate⟩
    · intro before cell after hsplit hbefore hcell
      have hwords : Report.cellTexts cells =
          Report.cellTexts before ++ toString cell.toInt :: Report.cellTexts after := by
        simp [hsplit, Report.cellTexts]
      have happly := apply_cellText domain
        { machine.slate with stack := (before.map Int64.toInt).reverse ++ machine.slate.stack } cell
      rw [if_neg (by simp [hcell])] at happly
      obtain ⟨hfault, hslate⟩ :=
        hcharged.unique (.first hwords (foldlM_cellTexts hbefore machine.slate) happly)
      exact ⟨hfault, cells_of_slate hslate⟩
  · intro popped machine hsession
    have houtput : machine.takeOutput.1 = printout popped := hsession.output_eq hset
    rw [houtput, words_printout, Report.cellTexts, List.map_map]
    refine ⟨List.map_congr_left fun cell _ => Domain.parse_toString (Domain.contains_i64 cell), ?_⟩
    intro hne
    refine trimEnd_printout ?_
    rintro rfl
    exact hne rfl

-- The line of a stack goes as far as its second cell, which 8 bits do not hold. Of another line,
-- two numbers were popped to be printed before it failed.
theorem runLine_rereads_partly :
    ∃ table, ((Handler.compileTable StackMachine .i8).run .nothing).1 = .ok table ∧
      (let machine : StackMachine := ⟨[1], "", none⟩
      let answer := ((runLine table machine "-128 128 5").run .nothing).1
      answer.1 = .error (.unroutable (.unknownToken "128")) ∧ answer.2.cells = [1, -128]) ∧
      ∃ machine, Session table [7, -8] machine ∧ Text.trimEnd machine.output = "7 -8" := by
  obtain ⟨table, hcompile, hrereads, hprinted⟩ := runLine_rereads .i8 .nothing
  obtain ⟨set, -, hset, -, rfl⟩ := Table.exists_binds hcompile
  obtain ⟨-, -, hstops⟩ := hrereads ⟨[1], "", none⟩ [-128, 128, 5] .nothing rfl
  have hrange : ∀ cell ∈ [-128], Domain.i8.range.contains (cell : Int64).toInt = true :=
    List.forall_mem_singleton.mpr (by decide)
  obtain ⟨hfault, hcells, -⟩ := hstops [-128] 128 [5] rfl hrange (by decide)
  refine ⟨_, hcompile, ⟨hfault, hcells⟩, ?_⟩
  have hfresh : Session (.ofMethodSet set .i8) [] empty := .fresh
  have hsession := hfresh.line "7 . -8 . +" .nothing
  have hcharged := runLine_charged hset (show empty.fault = none from rfl) .i8 "7 . -8 . +" .nothing
  have hsplit : Text.words "7 . -8 . +" = ["7", ".", "-8", "."] ++ "+" :: [] := by decide
  have hbefore : ["7", ".", "-8", "."].foldlM (Slate.apply .i8) empty.slate =
      .ok ⟨[], "7 -8 "⟩ := rfl
  obtain ⟨-, hslate⟩ := hcharged.unique (.first hsplit hbefore rfl)
  generalize ((runLine (.ofMethodSet set .i8) empty "7 . -8 . +").run .nothing).1.2 = machine
    at hsession hslate
  generalize [] ++ poppedIn (.ofMethodSet set .i8) empty (Text.words "7 . -8 . +") = popped
    at hsession
  have houtput : machine.takeOutput.1 = "7 -8 " := congrArg Slate.output hslate
  obtain ⟨hpopped, -⟩ := hprinted popped machine hsession
  rw [houtput] at hpopped
  have hnumbers : (Text.words "7 -8 ").map Domain.i64.parse = [7, -8].map some := by decide
  obtain rfl : [7, -8] = popped := (List.map_inj_right fun _ _ => Option.some.inj).mp
    (hnumbers.symm.trans hpopped)
  refine ⟨machine, hsession, ?_⟩
  change Text.trimEnd machine.takeOutput.1 = "7 -8"
  rw [houtput]
  decide

end StackMachine

end Switchboard
