import Switchboard.Proofs.MethodSet.Faults

namespace Switchboard

variable {H : Type}

open Method

namespace Method

theorem faultAt?_length (earlier rest : List (Method H)) (method : Method H) :
    faultAt? (earlier ++ method :: rest) earlier.length = method.fault? earlier := by
  simp [faultAt?]

theorem faultAt?_of_length_le {methods : List (Method H)} {index : Nat}
    (h : methods.length ≤ index) : faultAt? methods index = none := by
  simp [faultAt?, h]

-- Nothing is wrong with any of the methods, and there is an id for every action.
def Faultless (methods : List (Method H)) : Prop :=
  (actionsOf methods).length ≤ catalogLimit ∧
    ∀ index < methods.length, faultAt? methods index = none

instance (methods : List (Method H)) : Decidable (Faultless methods) :=
  inferInstanceAs (Decidable (_ ∧ _))

-- Actions with tokens of their own are a method set, as long as there are ids for them.
theorem faultless_of_actions {methods : List (Method H)}
    (hlimit : methods.length ≤ catalogLimit) (hrole : ∀ method ∈ methods, method.role = .action)
    (hrun : ∀ method ∈ methods, ∃ run, method.binding = some (.action run))
    (htokens : (methods.map token).Nodup) : Faultless methods := by
  have hactions : ∀ earlier, earlier ⊆ methods → actionsOf earlier = earlier := by
    intro earlier hsubset
    simpa [actionsOf] using fun method hmem => hrole method (hsubset hmem)
  refine ⟨by rwa [hactions methods (List.Subset.refl _)], ?_⟩
  intro index hindex
  have hmem := List.getElem_mem hindex
  obtain ⟨run, hbinding⟩ := hrun _ hmem
  have hfree : ∀ first ∈ methods.take index, first.token ≠ methods[index].token := by
    intro first hfirst htoken
    obtain ⟨place, hplace, rfl⟩ := List.mem_take_iff_getElem.mp hfirst
    have hlt : place < (methods.map token).length := by
      rw [List.length_map]
      omega
    have hsame : place = index := by
      rw [← List.getElem?_inj hlt htokens]
      simpa [hindex, Nat.lt_of_lt_of_le hplace (Nat.min_le_right _ _)] using htoken
    omega
  have hfind : (methods.take index).find?
      (fun first => first.token = methods[index].token) = none := by
    simpa using hfree
  simp only [faultAt?, List.getElem?_eq_getElem hindex, Option.bind_some, fault?, hrole _ hmem,
    hactions _ (List.take_subset _ _), hfind, hbinding]
  rfl

theorem fault?_ne_catalogOverflow (earlier : List (Method H)) (method : Method H)
    (actions limit : Nat) : method.fault? earlier ≠ some (.catalogOverflow actions limit) := by
  unfold fault?
  cases method.role with
  | action =>
      cases (actionsOf earlier).find? fun first => first.token = method.token with
      | none => simp only; split_ifs <;> simp
      | some first => simp
  | sink kind =>
      simp only
      split_ifs
      · cases earlier.findIdx? fun first => first.name = kind.methodName <;> simp
      · simp
  | excluded => simp
  | ignored => simp

theorem faultAt?_ne_catalogOverflow (methods : List (Method H)) (index actions limit : Nat) :
    faultAt? methods index ≠ some (.catalogOverflow actions limit) := by
  intro hfault
  obtain ⟨method, -, hfault⟩ := Option.bind_eq_some_iff.mp hfault
  exact fault?_ne_catalogOverflow _ method actions limit hfault

end Method

namespace MethodSet

-- The methods read so far had no fault. The reading of the rest stops at the first that has one.
theorem addAll_cases {total : Nat} (rest : List (Method H)) {earlier : List (Method H)}
    {set : MethodSet H} {claims : TokenClaims} (hset : set.Binds earlier)
    (hclaims : claims.Names earlier)
    (hlimit : (actionsOf (earlier ++ rest)).length ≤ catalogLimit) :
    (∃ next, addAll total earlier.length rest set claims = .ok next ∧
      next.Binds (earlier ++ rest) ∧
      ∀ index, earlier.length ≤ index → faultAt? (earlier ++ rest) index = none) ∨
    ∃ fault index, addAll total earlier.length rest set claims = .error fault ∧
      earlier.length ≤ index ∧ faultAt? (earlier ++ rest) index = some fault ∧
      ∀ other, earlier.length ≤ other → other < index → faultAt? (earlier ++ rest) other = none := by
  induction rest generalizing earlier set claims with
  | nil =>
      refine .inl ⟨set, rfl, by simpa using hset, ?_⟩
      intro index hindex
      exact faultAt?_of_length_le (by simpa using hindex)
  | cons method rest ih =>
      have hhere := faultAt?_length earlier rest method
      cases hfault : method.fault? earlier with
      | some fault =>
          refine .inr ⟨fault, earlier.length, ?_, Nat.le_refl _, hhere.trans hfault, ?_⟩
          · simp only [addAll, add_fault hset hclaims hfault]
          · intro other hle hlt
            omega
      | none =>
          have hprefix : (actionsOf (earlier ++ [method])).length ≤ catalogLimit := by
            have hsublist := List.sublist_append_left (earlier ++ [method]) rest
            rw [List.append_assoc, List.singleton_append] at hsublist
            exact Nat.le_trans (hsublist.filter _).length_le hlimit
          obtain ⟨next, nextClaims, hadd, hnext, hnames⟩ :=
            add_ok total hset hclaims hprefix hfault
          have hassoc : earlier ++ [method] ++ rest = earlier ++ method :: rest := by simp
          have hlength : (earlier ++ [method]).length = earlier.length + 1 := by simp
          have htail := ih hnext hnames (hassoc ▸ hlimit)
          rw [hassoc, hlength] at htail
          have hstep : addAll total earlier.length (method :: rest) set claims =
              addAll total (earlier.length + 1) rest next nextClaims := by
            simp only [addAll, hadd]
          rw [hstep]
          have hclean : ∀ other, earlier.length ≤ other → ¬earlier.length + 1 ≤ other →
              faultAt? (earlier ++ method :: rest) other = none := by
            intro other hle hlt
            obtain rfl : other = earlier.length := by omega
            exact hhere.trans hfault
          rcases htail with ⟨set', hok, hbinds, hnone⟩ | ⟨fault, index, herror, hle, hat, hnone⟩
          · refine .inl ⟨set', hok, hbinds, ?_⟩
            intro index hindex
            by_cases h : earlier.length + 1 ≤ index
            · exact hnone index h
            · exact hclean index hindex h
          · refine .inr ⟨fault, index, herror, by omega, hat, ?_⟩
            intro other hother hlt
            by_cases h : earlier.length + 1 ≤ other
            · exact hnone other h hlt
            · exact hclean other hother h

-- The loop never runs out of ids, since the actions were counted before it.
theorem addAll_ne_catalogOverflow {methods : List (Method H)}
    (hlimit : (actionsOf methods).length ≤ catalogLimit) (total actions limit : Nat) :
    addAll total 0 methods empty ∅ ≠ .error (.catalogOverflow actions limit) := by
  rcases @addAll_cases _ total methods _ _ _ Binds.empty .empty hlimit with
    ⟨set, hok, -⟩ | ⟨fault, index, herror, -, hat, -⟩
  · rw [List.length_nil] at hok
    rw [hok]
    simp
  · rw [List.length_nil] at herror
    rw [herror]
    rintro h
    obtain rfl := Except.error.inj h
    exact faultAt?_ne_catalogOverflow _ index actions limit hat

theorem actionCount_eq (methods : List (Method H)) :
    actionCount methods = (actionsOf methods).length :=
  List.countP_eq_length_filter

theorem ofMethods_overflow {methods : List (Method H)}
    (h : catalogLimit < (actionsOf methods).length) :
    ofMethods methods = .error (.catalogOverflow (actionsOf methods).length catalogLimit) := by
  simp only [ofMethods, actionCount_eq, if_pos h]

theorem ofMethods_cases {methods : List (Method H)}
    (hlimit : (actionsOf methods).length ≤ catalogLimit) :
    (∃ set, ofMethods methods = .ok set ∧ set.Binds methods ∧
      ∀ index, faultAt? methods index = none) ∨
    ∃ fault index, ofMethods methods = .error fault ∧ faultAt? methods index = some fault ∧
      ∀ other < index, faultAt? methods other = none := by
  have hrun : ofMethods methods = addAll (actionsOf methods).length 0 methods empty ∅ := by
    simp only [ofMethods, actionCount_eq, if_neg (Nat.not_lt.mpr hlimit)]
  rw [hrun]
  simpa using addAll_cases methods Binds.empty .empty hlimit

theorem ofMethods_eq_error {methods : List (Method H)} {index : Nat} {fault : CompileError}
    (hlimit : (actionsOf methods).length ≤ catalogLimit) (hat : faultAt? methods index = some fault)
    (hbefore : ∀ other < index, faultAt? methods other = none) :
    ofMethods methods = .error fault := by
  rcases ofMethods_cases hlimit with ⟨set, -, -, hnone⟩ | ⟨first, place, herror, hplace, hnone⟩
  · rw [hnone index] at hat
    cases hat
  · obtain hlt | rfl | hlt := Nat.lt_trichotomy index place
    · rw [hnone index hlt] at hat
      cases hat
    · rw [hplace] at hat
      rw [herror, Option.some.inj hat]
    · rw [hbefore place hlt] at hplace
      cases hplace

theorem exists_of_faultless {methods : List (Method H)} (h : Faultless methods) :
    ∃ set, ofMethods methods = .ok set := by
  rcases ofMethods_cases h.1 with ⟨set, hok, -⟩ | ⟨fault, index, -, hat, -⟩
  · exact ⟨set, hok⟩
  · by_cases hindex : index < methods.length
    · rw [h.2 index hindex] at hat
      cases hat
    · rw [faultAt?_of_length_le (Nat.not_lt.mp hindex)] at hat
      cases hat

-- A set that was accepted tells all of its methods.
theorem ofMethods_binds {methods : List (Method H)} {set : MethodSet H}
    (h : ofMethods methods = .ok set) :
    set.Binds methods ∧ (actionsOf methods).length ≤ catalogLimit := by
  by_cases hlimit : catalogLimit < (actionsOf methods).length
  · rw [ofMethods_overflow hlimit] at h
    cases h
  · refine ⟨?_, Nat.not_lt.mp hlimit⟩
    rcases ofMethods_cases (Nat.not_lt.mp hlimit) with
      ⟨set', hok, hbinds, -⟩ | ⟨fault, _, herror, -⟩
    · rw [hok] at h
      exact Except.ok.inj h ▸ hbinds
    · rw [herror] at h
      cases h

-- The events that are told on the way do not change what is answered.
theorem compile_outcome (methods : List (Method H)) (journal : Journal) :
    ((compile methods).run journal).1 = ofMethods methods := by
  simp only [compile, Logged.bind_outcome]
  cases ofMethods methods <;> rfl

-- Excess of actions outweighs everything. Otherwise a set is refused exactly for the first fault
-- in the order of declaration.
theorem compile_first_fault (methods : List (Method H)) (journal : Journal) :
    (65536 < (actionsOf methods).length →
      ((compile methods).run journal).1 =
        .error (.catalogOverflow (actionsOf methods).length 65536)) ∧
    ((actionsOf methods).length ≤ 65536 →
      ((∃ set, ((compile methods).run journal).1 = .ok set) ↔
        ∀ index, faultAt? methods index = none) ∧
      ∀ fault, ((compile methods).run journal).1 = .error fault ↔
        ∃ index, faultAt? methods index = some fault ∧
          ∀ other < index, faultAt? methods other = none) := by
  rw [compile_outcome]
  refine ⟨ofMethods_overflow, fun hlimit => ?_⟩
  rcases ofMethods_cases hlimit with ⟨set, hok, -, hnone⟩ | ⟨first, place, herror, hat, hnone⟩
  · rw [hok]
    refine ⟨⟨fun _ => hnone, fun _ => ⟨set, rfl⟩⟩, fun fault => ?_⟩
    constructor
    · intro h
      cases h
    · rintro ⟨index, hat, -⟩
      rw [hnone index] at hat
      cases hat
  · rw [herror]
    constructor
    · constructor
      · rintro ⟨set, h⟩
        cases h
      · intro h
        rw [h place] at hat
        cases hat
    · intro fault
      constructor
      · intro h
        obtain rfl := Except.error.inj h
        exact ⟨place, hat, hnone⟩
      · rintro ⟨index, hindex, hbefore⟩
        obtain hlt | rfl | hlt := Nat.lt_trichotomy index place
        · rw [hnone index hlt] at hindex
          cases hindex
        · rw [hat] at hindex
          rw [Option.some.inj hindex]
        · rw [hbefore place hlt] at hat
          cases hat

theorem compile_first_fault_mixed :
    let crowd : List (Method Nat) := List.replicate 65537 (Method.action "step" Nat.succ)
    let mixed : List (Method Nat) := [
      Method.integerSink fun total _ => total,
      Method.action "step" Nat.succ,
      Method.helper "rest" 0 true,
      (Method.action "walk" (Nat.add 2)).answersTo "step",
      Method.integerSink fun total _ => total]
    ((compile crowd).run .nothing).1 = .error (.catalogOverflow 65537 65536) ∧
      ((compile mixed).run .nothing).1 = .error (.unboundAction "rest") ∧
      ((compile (mixed.eraseIdx 2)).run .nothing).1 =
        .error (.duplicateToken "step" "step" "walk") ∧
      ((compile ((mixed.eraseIdx 2).eraseIdx 2)).run .nothing).1 =
        .error (.duplicateSink .integer 0 2) := by
  intro crowd mixed
  have hrole : (Method.action "step" Nat.succ : Method Nat).role = .action := by decide
  have hcount : ∀ count, (actionsOf (List.replicate count
      (Method.action "step" Nat.succ : Method Nat))).length = count := by
    intro count
    simp [actionsOf, hrole]
  have hcrowd := hcount 65537
  refine ⟨?_, ?_, ?_, ?_⟩
  · have hoverflow := (compile_first_fault crowd .nothing).1
    rw [hcrowd] at hoverflow
    exact hoverflow (by decide)
  · exact (((compile_first_fault mixed .nothing).2 (by decide)).2 _).mpr
      ⟨2, by decide, by decide⟩
  · exact (((compile_first_fault (mixed.eraseIdx 2) .nothing).2 (by decide)).2 _).mpr
      ⟨2, by decide, by decide⟩
  · exact (((compile_first_fault ((mixed.eraseIdx 2).eraseIdx 2) .nothing).2 (by decide)).2 _).mpr
      ⟨2, by decide, by decide⟩

end MethodSet

end Switchboard
