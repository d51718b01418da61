import Switchboard.Proofs.Numeral.Reading
import Switchboard.Proofs.StackMachine.Frame

namespace Switchboard

-- A word that writes a number of the domain, in any of its spellings.
structure Literal (domain : Domain) where
  word : String
  value : Int64
  parse_word : domain.parse word = some value

namespace Literal

variable {domain : Domain}

-- A number of the domain in its shortest spelling.
def ofCell (cell : Int64) (h : domain.range.contains cell.toInt = true) : Literal domain where
  word := toString cell.toInt
  value := cell
  parse_word := Domain.parse_toString h

theorem not_mem_vocabulary (literal : Literal domain) : literal.word ∉ Slate.vocabulary := by
  have hparse : ∀ word ∈ Slate.vocabulary, domain.parse word = none := by
    cases domain <;> decide
  intro hword
  cases (hparse literal.word hword).symm.trans literal.parse_word

theorem is_word (literal : Literal domain) :
    literal.word ≠ "" ∧ ∀ c ∈ literal.word.toList, Text.isBlank c = false := by
  obtain ⟨hspells, -⟩ := Domain.parse_eq_some_iff.mp literal.parse_word
  exact ⟨by simpa using hspells.ne_nil, hspells.not_blank⟩

end Literal

-- What makes one number of two.
inductive Operator where
  | plus
  | minus
  | times
  | divide
  | remainder
deriving DecidableEq, Repr

namespace Operator

def word : Operator → String
  | .plus => "+"
  | .minus => "-"
  | .times => "*"
  | .divide => "/"
  | .remainder => "%"

def divides : Operator → Bool
  | .divide => true
  | .remainder => true
  | _ => false

-- The number itself, of whatever size. Division goes toward zero.
def exact : Operator → Int → Int → Int
  | .plus => fun left right => left + right
  | .minus => fun left right => left - right
  | .times => fun left right => left * right
  | .divide => Int.tdiv
  | .remainder => Int.tmod

-- What 64 bits keep of it.
def result (operator : Operator) (left right : Int) : Int := Slate.wrap (operator.exact left right)

-- The one quotient that does not fit.
theorem result_lowest :
    result .divide (-9223372036854775808) (-1) = -9223372036854775808 ∧
      result .remainder (-9223372036854775808) (-1) = 0 := by
  decide

theorem is_word (operator : Operator) :
    operator.word ≠ "" ∧ ∀ c ∈ operator.word.toList, Text.isBlank c = false := by
  have hkept : operator.word.toList.any Text.isBlank = false := by cases operator <;> rfl
  exact ⟨by cases operator <;> decide, by simpa using List.any_eq_false.mp hkept⟩

theorem apply_word (operator : Operator) (domain : Domain) (left right : Int) (rest : List Int)
    (output : String) :
    Slate.apply domain ⟨right :: left :: rest, output⟩ operator.word =
      if operator.divides = true ∧ right = 0 then .error (.divisionByZero operator.word)
      else .ok ⟨operator.result left right :: rest, output⟩ := by
  have hop : Slate.arithmetic? operator.word = some operator.exact := by cases operator <;> rfl
  have hneeded : Slate.needed operator.word = 2 := by cases operator <;> rfl
  have hdivides : (operator.word = "/" ∨ operator.word = "%") ↔ operator.divides = true := by
    cases operator <;> decide
  rw [Slate.apply_arithmetic hop hneeded]
  simp only [hdivides]
  rfl

end Operator

-- A calculation with numbers of the domain.
inductive Expression (domain : Domain) where
  | literal (number : Literal domain)
  | operation (operator : Operator) (left right : Expression domain)

namespace Expression

variable {domain : Domain}

-- Operands first, and then what is done with them.
def words : Expression domain → List String
  | .literal number => [number.word]
  | .operation operator left right => left.words ++ right.words ++ [operator.word]

-- All parts of an expression, itself included, in the same order.
def parts : Expression domain → List (Expression domain)
  | .literal number => [.literal number]
  | .operation operator left right => left.parts ++ right.parts ++ [.operation operator left right]

-- The number that 64 bits hold in the end. It means nothing where a part divides by zero.
def value : Expression domain → Int
  | .literal number => number.value.toInt
  | .operation operator left right => operator.result left.value right.value

def dividesByZero : Expression domain → Bool
  | .literal _ => false
  | .operation operator _ right => operator.divides && right.value == 0

theorem words_spaced (expression : Expression domain) :
    Text.words (" ".intercalate expression.words) = expression.words := by
  refine Text.words_spaced ?_
  induction expression with
  | literal number => simpa [words] using number.is_word
  | operation operator left right hleft hright =>
      intro word hword
      simp only [words, List.mem_append, List.mem_singleton] at hword
      rcases hword with (hword | hword) | rfl
      · exact hleft word hword
      · exact hright word hword
      · exact operator.is_word

-- Words that are applied leave the others to be applied to what they make.
theorem foldlM_apply_append {s next : Slate} {before : List String}
    (hbefore : before.foldlM (Slate.apply domain) s = .ok next) (after : List String) :
    (before ++ after).foldlM (Slate.apply domain) s = after.foldlM (Slate.apply domain) next := by
  rw [List.foldlM_append, hbefore]
  rfl

theorem find?_operation {operator : Operator} {left right : Expression domain} :
    (operation operator left right).parts.find? dividesByZero =
      ((left.parts.find? dividesByZero).or (right.parts.find? dividesByZero)).or
        ([operation operator left right].find? dividesByZero) := by
  rw [parts, List.find?_append, List.find?_append]

-- Each part takes nothing but its own operands off the stack, and puts its value there instead.
theorem foldlM_words {expression : Expression domain}
    (h : expression.parts.find? dividesByZero = none) (stack : List Int) (output : String) :
    expression.words.foldlM (Slate.apply domain) ⟨stack, output⟩ =
      .ok ⟨expression.value :: stack, output⟩ := by
  induction expression generalizing stack with
  | literal number =>
      have happly : Slate.apply domain ⟨stack, output⟩ number.word =
          .ok ⟨number.value.toInt :: stack, output⟩ := by
        rw [Slate.apply_number number.not_mem_vocabulary, number.parse_word]
      exact StackMachine.foldlM_apply_cons happly []
  | operation operator left right hleft hright =>
      rw [find?_operation, Option.or_eq_none_iff, Option.or_eq_none_iff] at h
      obtain ⟨⟨hleftClean, hrightClean⟩, hself⟩ := h
      have happly : Slate.apply domain ⟨right.value :: left.value :: stack, output⟩ operator.word =
          .ok ⟨operator.result left.value right.value :: stack, output⟩ := by
        rw [operator.apply_word, if_neg]
        simpa [dividesByZero] using hself
      rw [words, List.append_assoc, foldlM_apply_append (hleft hleftClean stack),
        foldlM_apply_append (hright hrightClean (left.value :: stack))]
      exact StackMachine.foldlM_apply_cons happly []

-- The words in front of the first part that divides by zero leave its operands on top. Operands of
-- the parts around it may wait below them.
theorem exists_stop {expression part : Expression domain}
    (h : expression.parts.find? dividesByZero = some part) (stack : List Int) (output : String) :
    ∃ operator left right waiting before after, part = .operation operator left right ∧
      expression.words = before ++ operator.word :: after ∧
      before.foldlM (Slate.apply domain) ⟨stack, output⟩ =
        .ok ⟨right.value :: left.value :: (waiting ++ stack), output⟩ := by
  induction expression generalizing stack with
  | literal number => cases h
  | operation operator left right hleft hright =>
      rw [find?_operation] at h
      cases hfirst : left.parts.find? dividesByZero with
      | some found =>
          rw [hfirst] at h
          cases h
          obtain ⟨stops, first, second, waiting, before, after, hpart, hwords, hbefore⟩ :=
            hleft hfirst stack
          refine ⟨stops, first, second, waiting, before, after ++ right.words ++ [operator.word],
            hpart, ?_, hbefore⟩
          rw [words, hwords]
          simp
      | none =>
          have hvalue := foldlM_words hfirst stack output
          cases hsecond : right.parts.find? dividesByZero with
          | some found =>
              rw [hfirst, hsecond] at h
              cases h
              obtain ⟨stops, first, second, waiting, before, after, hpart, hwords, hbefore⟩ :=
                hright hsecond (left.value :: stack)
              refine ⟨stops, first, second, waiting ++ [left.value], left.words ++ before,
                after ++ [operator.word], hpart, ?_, ?_⟩
              · rw [words, hwords]
                simp
              · rw [foldlM_apply_append hvalue, hbefore, List.append_assoc]
                rfl
          | none =>
              have hother := foldlM_words hsecond (left.value :: stack) output
              rw [hfirst, hsecond] at h
              obtain rfl : operation operator left right = part := by
                simp only [Option.none_or, List.find?_cons] at h
                split at h <;> cases h
                rfl
              refine ⟨operator, left, right, [], left.words ++ right.words, [], rfl, rfl, ?_⟩
              rw [foldlM_apply_append hvalue, hother]
              rfl

theorem charged_value {expression : Expression domain}
    (h : expression.parts.find? dividesByZero = none) (s : Slate) :
    Slate.Charged domain s expression.words (.ok ())
      ⟨expression.value :: s.stack, s.output⟩ :=
  .nothing (foldlM_words h s.stack s.output)

theorem charged_division {expression part : Expression domain}
    (h : expression.parts.find? dividesByZero = some part) (s : Slate) :
    ∃ operator left right waiting, part = .operation operator left right ∧
      Slate.Charged domain s expression.words (.error (.divisionByZero operator.word))
        ⟨right.value :: left.value :: (waiting ++ s.stack), s.output⟩ := by
  obtain ⟨operator, left, right, waiting, before, after, rfl, hwords, hbefore⟩ :=
    exists_stop h s.stack s.output
  refine ⟨operator, left, right, waiting, rfl, .first hwords hbefore ?_⟩
  have hpart : operator.divides = true ∧ right.value = 0 := by
    simpa [dividesByZero] using List.find?_some h
  rw [operator.apply_word, if_pos hpart]

-- The quotient times the divisor, and the remainder.
def restored (dividend divisor : Expression domain) : Expression domain :=
  .operation .plus
    (.operation .times (.operation .divide dividend divisor) divisor)
    (.operation .remainder dividend divisor)

-- Also the quotient that wraps around is made good by the product.
theorem value_restored {dividend divisor : Literal domain} :
    (restored (.literal dividend) (.literal divisor)).value = dividend.value.toInt := by
  have hwhole : dividend.value.toInt.tdiv divisor.value.toInt * divisor.value.toInt +
      dividend.value.toInt.tmod divisor.value.toInt = dividend.value.toInt := by
    rw [Int.add_comm]
    exact Int.tmod_add_tdiv_mul _ _
  simp only [restored, value, Operator.result, Operator.exact, Slate.wrap]
  rw [Int.bmod_add_bmod, Int.add_bmod_bmod, ← Int.bmod_add_bmod, Int.bmod_mul_bmod,
    Int.bmod_add_bmod, hwhole, Int64.toInt_bmod]

theorem find?_restored {dividend divisor : Literal domain} (hdivisor : divisor.value ≠ 0) :
    (restored (.literal dividend) (.literal divisor)).parts.find? dividesByZero = none := by
  have hnonzero : divisor.value.toInt ≠ 0 := by
    rwa [ne_eq, ← Int64.toInt_zero, Int64.toInt_inj]
  simp [restored, parts, dividesByZero, value, Operator.divides, hnonzero]

end Expression

namespace StackMachine

-- A calculation in postfix form leaves its value on top of the stack, in the arithmetic of 64 bits.
-- If it divides by zero, the line ends there: the first part that does is charged, its operands are
-- on top, and what was on the stack before is at the bottom. A dividend is found again from
-- quotient and remainder.
theorem runLine_evaluates (domain : Domain) (journal : Journal) :
    (Operator.result .divide (-9223372036854775808) (-1) = -9223372036854775808 ∧
      Operator.result .remainder (-9223372036854775808) (-1) = 0) ∧
    (∀ expression : Expression domain,
      Text.words (" ".intercalate expression.words) = expression.words) ∧
    ∃ table, ((Handler.compileTable StackMachine domain).run journal).1 = .ok table ∧
    ∀ machine listener, machine.fault = none →
      (∀ (expression : Expression domain) line,
        Text.SplitsInto line.toList (expression.words.map String.toList) →
        let answer := ((runLine table machine line).run listener).1
        (expression.parts.find? Expression.dividesByZero = none →
          answer.1 = .ok () ∧
          answer.2.slate = ⟨expression.value :: machine.slate.stack, machine.output⟩) ∧
        ∀ part, expression.parts.find? Expression.dividesByZero = some part →
          ∃ operator left right waiting, part = .operation operator left right ∧
            answer.1 = .error (.divisionByZero operator.word) ∧
            answer.2.slate =
              ⟨right.value :: left.value :: (waiting ++ machine.slate.stack), machine.output⟩) ∧
      ∀ a b : Int64, domain.range.contains a.toInt = true → domain.range.contains b.toInt = true →
        b ≠ 0 →
        let line := " ".intercalate [toString a.toInt, toString b.toInt, "/", toString b.toInt, "*",
          toString a.toInt, toString b.toInt, "%", "+"]
        let answer := ((runLine table machine line).run listener).1
        answer.1 = .ok () ∧ answer.2.slate = ⟨a.toInt :: machine.slate.stack, machine.output⟩ := by
  refine ⟨Operator.result_lowest, Expression.words_spaced, ?_⟩
  obtain ⟨table, hcompile⟩ := Table.exists_of_faultless methods_faultless domain journal
  obtain ⟨set, -, hset, -, rfl⟩ := Table.exists_binds hcompile
  refine ⟨_, hcompile, ?_⟩
  intro machine listener hclean
  refine ⟨?_, ?_⟩
  · intro expression line hsplits answer
    have hcharged := runLine_charged hset hclean domain line listener
    rw [← Text.splitsInto_toList_iff.mp hsplits] at hcharged
    refine ⟨fun hnone => hcharged.unique (Expression.charged_value hnone machine.slate), ?_⟩
    intro part hpart
    obtain ⟨operator, left, right, waiting, hself, hstops⟩ :=
      Expression.charged_division hpart machine.slate
    exact ⟨operator, left, right, waiting, hself, hcharged.unique hstops⟩
  · intro a b ha hb hne line answer
    have hcharged := runLine_charged hset hclean domain line listener
    let expression := Expression.restored (.literal (.ofCell a ha)) (.literal (.ofCell b hb))
    have hvalue : expression.value = a.toInt := Expression.value_restored
    have hline : Text.words line = expression.words := Expression.words_spaced expression
    have hnone : expression.parts.find? Expression.dividesByZero = none :=
      Expression.find?_restored hne
    rw [hline] at hcharged
    rw [← hvalue]
    exact hcharged.unique (Expression.charged_value hnone machine.slate)

-- Of 3 + 7 / (5 - 5) % 2 the words up to the division are applied. The 3 waits on the stack, and
-- the division puts its operands back over it.
theorem runLine_evaluates_division :
    ∃ table, ((Handler.compileTable StackMachine .i8).run .nothing).1 = .ok table ∧
      let machine : StackMachine := ⟨[9], "1 ", none⟩
      let answer := ((runLine table machine "3 +7 5\n5 - /  2 % +").run .nothing).1
      answer.1 = .error (.divisionByZero "/") ∧
        ∃ waiting, answer.2.slate = ⟨0 :: 7 :: (waiting ++ [9]), "1 "⟩ := by
  obtain ⟨-, -, table, hcompile, hruns⟩ := runLine_evaluates .i8 .nothing
  obtain ⟨hevaluates, -⟩ := hruns ⟨[9], "1 ", none⟩ .nothing rfl
  let five : Expression .i8 := .literal ⟨"5", 5, rfl⟩
  let quotient : Expression .i8 :=
    .operation .divide (.literal ⟨"+7", 7, rfl⟩) (.operation .minus five five)
  let expression : Expression .i8 := .operation .plus (.literal ⟨"3", 3, rfl⟩)
    (.operation .remainder quotient (.literal ⟨"2", 2, rfl⟩))
  have hwords : expression.words = Text.words "3 +7 5\n5 - /  2 % +" := by decide
  obtain ⟨-, hstops⟩ := hevaluates expression _ (Text.splitsInto_toList_iff.mpr hwords)
  obtain ⟨operator, left, right, waiting, hquotient, hfault, hslate⟩ := hstops quotient rfl
  obtain ⟨rfl, rfl, rfl⟩ := Expression.operation.inj hquotient
  exact ⟨table, hcompile, hfault, waiting, hslate⟩

end StackMachine

end Switchboard
