import Switchboard.TokenClaims
import Mathlib.Data.Finset.Card

namespace Switchboard

-- A method that claims its token. One record can be kept for methods of several handler types.
structure Claimant where
  {H : Type}
  method : Method H

namespace Claimant

def token (claimant : Claimant) : String := claimant.method.token

def name (claimant : Claimant) : String := claimant.method.name

end Claimant

namespace TokenClaims

-- What a claimant is answered, and what is on record then. A refused claim leaves the record alone.
def offer (claims : TokenClaims) (claimant : Claimant) :
    Except CompileError String × TokenClaims :=
  match claims.claim claimant.method with
  | .ok next => (.ok claimant.token, next)
  | .error fault => (.error fault, claims)

-- Claims that are made one after another, whatever the answers are.
def offerAll : TokenClaims → List Claimant → List (Except CompileError String) × TokenClaims
  | claims, [] => ([], claims)
  | claims, claimant :: rest =>
      let (response, next) := claims.offer claimant
      let (responses, last) := offerAll next rest
      (response :: responses, last)

variable {claims : TokenClaims} {claimant : Claimant} {claimants : List Claimant}
  {token first : String}

theorem offer_free (h : claims.owner? claimant.token = none) :
    claims.offer claimant =
      (.ok claimant.token, ⟨claims.owners.insert claimant.token claimant.name⟩) := by
  rw [Claimant.token] at h
  simp only [offer, claim, h]
  rfl

theorem offer_contested (h : claims.owner? claimant.token = some first) :
    claims.offer claimant =
      (.error (.duplicateToken claimant.token first claimant.name), claims) := by
  rw [Claimant.token] at h
  simp only [offer, claim, h]
  rfl

-- What one claim does to the record: it adds the token if nobody has it.
theorem owner?_offer (claims : TokenClaims) (claimant : Claimant) (token : String) :
    (claims.offer claimant).2.owner? token =
      (claims.owner? token).or (if claimant.token = token then some claimant.name else none) := by
  cases howner : claims.owner? claimant.token with
  | none =>
      rw [offer_free howner]
      by_cases htoken : claimant.token = token
      · subst htoken
        rw [howner, if_pos rfl]
        exact Std.HashMap.getElem?_insert_self
      · rw [if_neg htoken, Option.or_none]
        simp [owner?, Std.HashMap.getElem?_insert, htoken]
  | some first =>
      rw [offer_contested howner]
      by_cases htoken : claimant.token = token
      · subst htoken
        rw [howner, Option.some_or]
      · rw [if_neg htoken, Option.or_none]

-- So a run of claims leaves every token with the first that has claimed it.
theorem owner?_offerAll (claims : TokenClaims) (claimants : List Claimant) (token : String) :
    (claims.offerAll claimants).2.owner? token =
      (claims.owner? token).or ((claimants.find? (·.token = token)).map Claimant.name) := by
  induction claimants generalizing claims with
  | nil => rw [List.find?_nil, Option.map_none, Option.or_none, offerAll]
  | cons claimant rest ih =>
      have hrest := ih (claims.offer claimant).2
      rw [owner?_offer, Option.or_assoc] at hrest
      refine hrest.trans (congrArg _ ?_)
      by_cases htoken : claimant.token = token
      · simp [htoken]
      · simp [htoken]

theorem offerAll_append (claims : TokenClaims) (before after : List Claimant) :
    claims.offerAll (before ++ after) =
      ((claims.offerAll before).1 ++ ((claims.offerAll before).2.offerAll after).1,
        ((claims.offerAll before).2.offerAll after).2) := by
  induction before generalizing claims with
  | nil => rfl
  | cons claimant before ih =>
      simp only [List.cons_append, offerAll, ih]

theorem length_offerAll (claims : TokenClaims) (claimants : List Claimant) :
    (claims.offerAll claimants).1.length = claimants.length := by
  induction claimants generalizing claims with
  | nil => rfl
  | cons claimant rest ih => simp only [offerAll, List.length_cons, ih]

-- A claimant is answered as the record of those before it says.
theorem getElem?_offerAll (claims : TokenClaims) {index : Nat}
    (h : claimants[index]? = some claimant) :
    (claims.offerAll claimants).1[index]? =
      some ((claims.offerAll (claimants.take index)).2.offer claimant).1 := by
  obtain ⟨hlt, rfl⟩ := List.getElem?_eq_some_iff.mp h
  have hlength := length_offerAll claims (claimants.take index)
  rw [List.length_take, Nat.min_eq_left (Nat.le_of_lt hlt)] at hlength
  conv_lhs => rw [← List.take_append_drop index claimants, ← List.getElem_cons_drop hlt]
  rw [offerAll_append, List.getElem?_append_right (Nat.le_of_eq hlength), hlength, Nat.sub_self]
  rfl

theorem offerAll_take_succ (claims : TokenClaims) {index : Nat}
    (h : claimants[index]? = some claimant) :
    (claims.offerAll (claimants.take (index + 1))).2 =
      ((claims.offerAll (claimants.take index)).2.offer claimant).2 := by
  rw [List.take_add_one, h, offerAll_append]
  rfl

section Fresh

@[simp] theorem owner?_empty (token : String) : (∅ : TokenClaims).owner? token = none :=
  Std.HashMap.getElem?_empty

theorem owner?_offerAll_empty (claimants : List Claimant) (token : String) :
    ((∅ : TokenClaims).offerAll claimants).2.owner? token =
      (claimants.find? (·.token = token)).map Claimant.name := by
  rw [owner?_offerAll, owner?_empty, Option.none_or]

-- The claimed tokens are those of all claimants, refused ones as well.
theorem isSome_owner?_offerAll :
    (((∅ : TokenClaims).offerAll claimants).2.owner? token).isSome ↔
      ∃ claimant ∈ claimants, claimant.token = token := by
  rw [owner?_offerAll_empty, Option.isSome_map, List.find?_isSome]
  simp

theorem size_offerAll (claimants : List Claimant) :
    ((∅ : TokenClaims).offerAll claimants).2.size =
      (claimants.map Claimant.token).toFinset.card := by
  have hkeys : ((∅ : TokenClaims).offerAll claimants).2.owners.keys.toFinset =
      (claimants.map Claimant.token).toFinset := by
    ext token
    rw [List.mem_toFinset, List.mem_toFinset, Std.HashMap.mem_keys, List.mem_map,
      ← isSome_owner?_offerAll, owner?, Std.HashMap.isSome_getElem?_iff_mem]
  rw [← hkeys, List.toFinset_card_of_nodup Std.HashMap.nodup_keys, Std.HashMap.length_keys]
  rfl

theorem isEmpty_offerAll (claimants : List Claimant) :
    ((∅ : TokenClaims).offerAll claimants).2.isEmpty = true ↔ claimants = [] := by
  have hsize := size_offerAll claimants
  rw [isEmpty, Std.HashMap.isEmpty_eq_size_eq_zero, beq_iff_eq]
  rw [size] at hsize
  rw [hsize, Finset.card_eq_zero, List.toFinset_eq_empty_iff, List.map_eq_nil_iff]

end Fresh

-- A claim is granted exactly when no method before it answers to the same token, be it granted or
-- refused itself. Else the answer names the first of those, and the record stays as it was. What is
-- on record in the end are the tokens of all methods, each of them once, in whatever order the
-- methods come.
theorem offerAll_names_first (claimants : List Claimant) :
    let run := (∅ : TokenClaims).offerAll claimants
    let record (count : Nat) := ((∅ : TokenClaims).offerAll (claimants.take count)).2
    run.1.length = claimants.length ∧
    (∀ index claimant, claimants[index]? = some claimant →
      let earlier := claimants.take index
      (run.1[index]? = some (.ok claimant.token) ↔
        ∀ other ∈ earlier, other.token ≠ claimant.token) ∧
      ((∃ other ∈ earlier, other.token = claimant.token) → ∃ first,
        earlier.find? (·.token = claimant.token) = some first ∧
        run.1[index]? = some (.error (.duplicateToken claimant.token first.name claimant.name)) ∧
        record (index + 1) = record index)) ∧
    run.2.size = (claimants.map Claimant.token).toFinset.card ∧
    (run.2.isEmpty = true ↔ ∀ response ∈ run.1, ∀ token, response ≠ .ok token) ∧
    ∀ other, other.Perm claimants → ∀ token,
      ((((∅ : TokenClaims).offerAll other).2.owner? token).isSome ↔
        (run.2.owner? token).isSome) := by
  intro run record
  refine ⟨length_offerAll ∅ claimants, fun index claimant hclaimant => ?_,
    size_offerAll claimants, ?_, fun other hperm token => ?_⟩
  · intro earlier
    have howner := owner?_offerAll_empty earlier claimant.token
    have hresponse : run.1[index]? = some ((record index).offer claimant).1 :=
      getElem?_offerAll ∅ hclaimant
    have hrecord : record (index + 1) = ((record index).offer claimant).2 :=
      offerAll_take_succ ∅ hclaimant
    rw [hresponse, hrecord]
    cases hfind : earlier.find? (·.token = claimant.token) with
    | none =>
        rw [hfind, Option.map_none] at howner
        rw [List.find?_eq_none] at hfind
        have hfree : ∀ other ∈ earlier, other.token ≠ claimant.token := by simpa using hfind
        rw [offer_free howner]
        refine ⟨⟨fun _ => hfree, fun _ => rfl⟩, ?_⟩
        rintro ⟨other, hmem, htoken⟩
        exact absurd htoken (hfree other hmem)
    | some first =>
        rw [hfind, Option.map_some] at howner
        have hmem := List.mem_of_find?_eq_some hfind
        have htoken : first.token = claimant.token := by simpa using List.find?_some hfind
        rw [offer_contested howner]
        refine ⟨⟨fun hok => ?_, fun hfree => absurd htoken (hfree first hmem)⟩,
          fun _ => ⟨first, rfl, rfl, rfl⟩⟩
        cases hok
  · rw [isEmpty_offerAll]
    cases claimants with
    | nil => simp [run, offerAll]
    | cons claimant rest =>
        have hgranted : .ok claimant.token ∈ run.1 := by
          simp only [run, offerAll, offer_free (owner?_empty claimant.token)]
          exact List.mem_cons_self
        exact ⟨nofun, fun hnone => absurd rfl (hnone _ hgranted _)⟩
  · simp only [run, isSome_owner?_offerAll, hperm.mem_iff]

-- An alias collides with a name, and a method that is left out of dispatch collides with both. The
-- answers name the method that came first, although the others have another handler type.
theorem offerAll_names_first_alias :
    let dup : Claimant := ⟨Method.action (H := Nat) "dup" Nat.succ⟩
    let copy : Claimant := ⟨(Method.action (H := Nat) "copy" Nat.succ).answersTo "dup"⟩
    let hidden : Claimant := ⟨(Method.helper (H := String) "dup" 2 false).hidden⟩
    let upper : Claimant := ⟨Method.action "Dup" fun (text : String) => text⟩
    let run := (∅ : TokenClaims).offerAll [dup, copy, upper, hidden]
    run.1[0]? = some (.ok "dup") ∧
      run.1[1]? = some (.error (.duplicateToken "dup" "dup" "copy")) ∧
      run.1[2]? = some (.ok "Dup") ∧
      run.1[3]? = some (.error (.duplicateToken "dup" "dup" "dup")) ∧ run.2.size = 2 := by
  intro dup copy hidden upper run
  obtain ⟨-, hclaims, hsize, -⟩ := offerAll_names_first [dup, copy, upper, hidden]
  have hgranted : ∀ index claimant, [dup, copy, upper, hidden][index]? = some claimant →
      (∀ other ∈ [dup, copy, upper, hidden].take index, other.token ≠ claimant.token) →
      run.1[index]? = some (.ok claimant.token) :=
    fun index claimant hget => (hclaims index claimant hget).1.mpr
  obtain ⟨_, ⟨⟩, hcopy, -⟩ := (hclaims 1 copy rfl).2 ⟨dup, List.mem_cons_self, rfl⟩
  obtain ⟨_, ⟨⟩, hhidden, -⟩ := (hclaims 3 hidden rfl).2 ⟨dup, List.mem_cons_self, rfl⟩
  refine ⟨hgranted 0 dup rfl (by simp), hcopy, hgranted 2 upper rfl ?_, hhidden, hsize.trans ?_⟩
  · simp [dup, copy, upper, Claimant.token, Method.token, Method.action, Method.answersTo,
      Method.unbound, Method.bind]
  · decide

end TokenClaims

end Switchboard
