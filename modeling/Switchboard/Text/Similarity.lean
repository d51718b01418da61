namespace Switchboard.Text

-- How alike two words are. Letters are paired from the left, each with the first equal letter
-- that is still free and not too far away.
namespace Similarity

-- Paired letters may be this far apart.
def reach (a b : List Char) : Nat := max a.length b.length / 2 - 1

-- Takes the first free letter that equals the given one out of the places from `low` on and
-- before `high`.
def take? (c : Char) (low high : Nat) : List (Nat × Char) → Option (List (Nat × Char))
  | [] => none
  | (place, other) :: rest =>
      if low ≤ place ∧ place < high ∧ other = c then some rest
      else (take? c low high rest).map ((place, other) :: ·)

-- The paired letters of the first word, and what stays free of the second.
def pair (reach : Nat) : (place : Nat) → (free : List (Nat × Char)) → List Char →
    List Char × List (Nat × Char)
  | _, free, [] => ([], free)
  | place, free, c :: rest =>
      match take? c (place - reach) (place + reach + 1) free with
      | none => pair reach (place + 1) free rest
      | some free =>
          let (paired, free) := pair reach (place + 1) free rest
          (c :: paired, free)

def placed (word : List Char) : List (Nat × Char) := word.zipIdx.map fun (c, place) => (place, c)

def countDifferent : List Char → List Char → Nat
  | a :: as, b :: bs => (if a = b then 0 else 1) + countDifferent as bs
  | _, _ => 0

-- From 0 for words without any pair to 1 for equal words. Every two pairs that cross count as
-- one exchange.
def degree (a b : List Char) : Float :=
  if a.isEmpty && b.isEmpty then 1.0
  else
    let (ofFirst, free) := pair (reach a b) 0 (placed b) a
    let ofSecond := ((placed b).filter fun letter => !free.contains letter).map (·.2)
    let exchanges := countDifferent ofFirst ofSecond / 2
    if ofFirst.isEmpty then 0.0
    else
      let pairs := Float.ofNat ofFirst.length
      (pairs / Float.ofNat a.length + pairs / Float.ofNat b.length +
        Float.ofNat (ofFirst.length - exchanges) / pairs) / 3.0

end Similarity

-- The names that may have been meant, the least alike first.
def similarNames (given : String) (names : List String) : List String :=
  let scored := names.map fun name => (Similarity.degree given.toList name.toList, name)
  let close := scored.filter fun entry => entry.1 > 0.7
  (close.mergeSort fun left right => left.1 ≤ right.1).map (·.2)

def mostSimilarName? (given : String) (names : List String) : Option String :=
  (similarNames given names).getLast?

end Switchboard.Text
