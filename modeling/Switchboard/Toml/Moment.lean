import Switchboard.Toml.Token

namespace Switchboard.Toml

-- Dates and times. No setting takes one, so it is enough to know whether there is one.
namespace Moment

-- Why a text is no moment: the part that is wrong, and what it should be.
structure Flaw where
  part : String
  expected : Option String
deriving DecidableEq, Repr

namespace Flaw

def message (flaw : Flaw) : String :=
  match flaw.expected with
  | some expected => "invalid " ++ flaw.part ++ ", expected " ++ expected
  | none => "invalid " ++ flaw.part

end Flaw

private inductive Piece where
  | digits (value : Nat) (count : Nat)
  | mark (c : Char)
  | other
deriving DecidableEq

-- Letters may be written in either case.
private def mark? (c : Char) : Option Char :=
  let c := c.toUpper
  if ['-', ':', '.', 'T', ' ', 'Z', '+'].contains c then some c else none

private def number (digits : List Char) : Nat :=
  digits.foldl (fun value c => value * 10 + (c.toNat - 48)) 0

private def pieces : List Char → List Piece
  | [] => []
  | c :: rest =>
      if c.isDigit then
        let digits := c :: rest.takeWhile Char.isDigit
        .digits (number digits) digits.length :: pieces (rest.drop (digits.length - 1))
      else match mark? c with
        | some c => .mark c :: pieces rest
        | none => [.other]
termination_by text => text.length
decreasing_by all_goals simp only [List.length_drop, List.length_cons]; omega

abbrev Read := Except Flaw

private def flaw {α : Type} (part expected : String) : Read α := .error ⟨part, some expected⟩

private def digits (part expected : String) : List Piece → Read ((Nat × Nat) × List Piece)
  | .digits value count :: rest => .ok ((value, count), rest)
  | _ => flaw part expected

private def mark (part expected : String) (wanted : Char) : List Piece → Read (List Piece)
  | .mark c :: rest => if c = wanted then .ok rest else flaw part expected
  | _ => flaw part expected

private def ensure (part expected : String) (holds : Bool) : Read Unit :=
  if holds then .ok () else flaw part expected

private def isLeap (year : Nat) : Bool := year % 4 == 0 && (year % 100 != 0 || year % 400 == 0)

private def daysIn (year month : Nat) : Nat :=
  if month = 2 then if isLeap year then 29 else 28
  else if [4, 6, 9, 11].contains month then 30
  else 31

-- What follows the year.
private def restOfDate (year : Nat × Nat) (rest : List Piece) : Read (List Piece) := do
  let (month, rest) ← digits "date" "month" rest
  let rest ← mark "date" "`-` (MM-DD)" '-' rest
  let (day, rest) ← digits "date" "day" rest
  ensure "date" "a four-digit year (YYYY)" (year.2 == 4)
  ensure "date" "a two-digit month (MM)" (month.2 == 2)
  ensure "date" "a two-digit day (DD)" (day.2 == 2)
  ensure "date" "month between 01 and 12" (1 ≤ month.1 && month.1 ≤ 12)
  let last := daysIn year.1 month.1
  ensure "date" ("day between 01 and " ++ toString last) (1 ≤ day.1 && day.1 ≤ last)
  return rest

-- The number behind a mark, if there is that mark.
private def optional (expected : String) (wanted : Char) (rest : List Piece) :
    Read (Option (Nat × Nat) × List Piece) :=
  match rest with
  | .mark c :: after =>
      if c = wanted then do
        let (value, rest) ← digits "time" expected after
        return (some value, rest)
      else .ok (none, rest)
  | _ => .ok (none, rest)

private def time (rest : List Piece) : Read (List Piece) := do
  let (hour, rest) ← digits "time" "hour" rest
  let rest ← mark "time" "`:` (HH:MM)" ':' rest
  let (minute, rest) ← digits "time" "minute" rest
  let (second, rest) ← optional "second" ':' rest
  let rest ← if second.isSome then (·.2) <$> optional "nanosecond" '.' rest else pure rest
  ensure "time" "a two-digit hour (HH)" (hour.2 == 2)
  ensure "time" "a two-digit minute (MM)" (minute.2 == 2)
  ensure "time" "a two-digit second (SS)" (second.all (·.2 == 2))
  ensure "time" "hour between 00 and 23" (decide (hour.1 ≤ 23))
  ensure "time" "minute between 00 and 59" (decide (minute.1 ≤ 59))
  ensure "time" "second between 00 and 60" (second.all (·.1 ≤ 60))
  return rest

private def offset (rest : List Piece) : Read (List Piece) :=
  match rest with
  | [] => .ok []
  | .mark 'Z' :: rest => .ok rest
  | .mark c :: rest =>
      if c = '+' ∨ c = '-' then do
        let (hours, rest) ← digits "offset" "hour" rest
        let rest ← mark "offset" "`:` (HH:MM)" ':' rest
        let (minutes, rest) ← digits "offset" "minute" rest
        ensure "offset" "a two-digit hour (HH)" (hours.2 == 2)
        ensure "offset" "a two-digit minute (MM)" (minutes.2 == 2)
        ensure "offset" "hours between 00 and 23" (decide (hours.1 ≤ 23))
        ensure "offset" "minutes between 00 and 59" (decide (minutes.1 ≤ 59))
        return rest
      else flaw "offset" "`Z`, +OFFSET, -OFFSET"
  | _ => flaw "offset" "`Z`, +OFFSET, -OFFSET"

private def afterDate (rest : List Piece) : Read (List Piece) :=
  match rest with
  | [] => .ok []
  | .mark c :: rest =>
      if c = 'T' ∨ c = ' ' then do offset (← time rest)
      else flaw "date-time" "`T` between date and time"
  | _ => flaw "date-time" "`T` between date and time"

-- A date, a time, or both with or without an offset.
def check (text : List Char) : Read Unit := do
  let all := pieces text
  let (first, rest) ← digits "datetime" "year or hour" all
  let separator := "`-` (YYYY-MM) or `:` (HH:MM)"
  let rest ← match rest with
    | .mark c :: after =>
        if c = '-' then do afterDate (← restOfDate first after)
        else if c = ':' then time all
        else flaw "datetime" separator
    | _ => flaw "datetime" separator
  if rest.isEmpty then return () else throw ⟨"datetime", none⟩

end Moment

end Switchboard.Toml
