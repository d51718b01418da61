import Switchboard.Proofs.Json.Reading

namespace Switchboard.Json

open Scan

-- What holds for a list or an object if it holds for all that it is made of holds for every value.
@[elab_as_elim, induction_eliminator]
theorem induction {motive : Json → Prop} (null : motive .null)
    (flag : ∀ value, motive (.flag value)) (integer : ∀ value, motive (.integer value))
    (text : ∀ value, motive (.text value))
    (array : ∀ items, (∀ item ∈ items, motive item) → motive (.array items))
    (object : ∀ members, (∀ member ∈ members, motive member.2) → motive (.object members))
    (json : Json) : motive json :=
  Json.rec (motive_1 := motive) (motive_2 := fun items => ∀ item ∈ items, motive item)
    (motive_3 := fun members => ∀ member ∈ members, motive member.2)
    (motive_4 := fun member => motive member.2)
    null flag integer text array object
    nofun (fun _ _ hitem hitems => List.forall_mem_cons.mpr ⟨hitem, hitems⟩)
    nofun (fun _ _ hmember hmembers => List.forall_mem_cons.mpr ⟨hmember, hmembers⟩)
    (fun _ _ hvalue => hvalue) json

def writeMember (member : String × Json) : List Char := quote member.1 ++ ':' :: write member.2

theorem writeItems_eq (items : List Json) :
    writeItems items = [','].intercalate (items.map write) := by
  induction items with
  | nil => rfl
  | cons item rest ih =>
      cases rest with
      | nil => rw [writeItems, List.map_singleton, List.intercalate_singleton]
      | cons next rest =>
          rw [List.map_cons, List.map_cons, List.intercalate_cons_cons, ← List.map_cons, ← ih,
            writeItems, List.append_assoc, List.singleton_append]
          exact nofun

theorem writeMembers_eq (members : List (String × Json)) :
    writeMembers members = [','].intercalate (members.map writeMember) := by
  induction members with
  | nil => rfl
  | cons member rest ih =>
      obtain ⟨key, value⟩ := member
      cases rest with
      | nil =>
          rw [writeMembers, List.map_singleton, List.intercalate_singleton]
          rfl
      | cons next rest =>
          rw [List.map_cons, List.map_cons, List.intercalate_cons_cons, ← List.map_cons, ← ih,
            writeMembers]
          · simp only [writeMember, List.append_assoc, List.cons_append, List.nil_append]
          · exact nofun

-- The first character of a value shows that no list ends in front of it.
structure Starts (c : Char) : Prop where
  gap : isGap c = false
  list : c ≠ ']'
  object : c ≠ '\x7d'

theorem starts_of_isDigit {c : Char} (h : c.isDigit = true) : Starts c where
  gap := by
    by_contra hgap
    simp only [isGap, Bool.not_eq_false, Bool.or_eq_true, beq_iff_eq] at hgap
    rcases hgap with ((rfl | rfl) | rfl) | rfl <;> exact absurd h (by decide)
  list := by
    rintro rfl
    exact absurd h (by decide)
  object := by
    rintro rfl
    exact absurd h (by decide)

theorem exists_digit (n : Nat) :
    ∃ c digits, Nat.toDigits 10 n = c :: digits ∧ c.isDigit = true := by
  cases hdigits : Nat.toDigits 10 n with
  | nil => exact absurd hdigits Nat.toDigits_ne_nil
  | cons c digits => exact ⟨c, digits, rfl, isDigit_toDigits c (hdigits ▸ List.mem_cons_self)⟩

theorem write_starts (json : Json) : ∃ c rest, json.write = c :: rest ∧ Starts c := by
  cases json with
  | integer value =>
      rw [write, toList_toString_int]
      split_ifs
      · obtain ⟨c, digits, heq, hc⟩ := exists_digit value.toNat
        exact ⟨c, digits, heq, starts_of_isDigit hc⟩
      · exact ⟨'-', _, rfl, by decide, by decide, by decide⟩
  | flag value => cases value <;> exact ⟨_, _, rfl, by decide, by decide, by decide⟩
  | _ => exact ⟨_, _, rfl, by decide, by decide, by decide⟩

theorem length_write_pos {json : Json} {bound : Nat} (h : json.write.length ≤ bound) :
    1 ≤ bound := by
  obtain ⟨c, rest, hcons, -⟩ := write_starts json
  rw [hcons, List.length_cons] at h
  omega

theorem next?_of_gap {c : Char} (h : isGap c = false) (rest : List Char) :
    next? (c :: rest) = some (c, rest) := by
  rw [next?, skipGaps, List.dropWhile_cons_of_neg (by simp [h])]

section Lists

variable {α : Type} {closing : Char} {item? : List Char → Option (α × List Char)}
  {write : α → List Char} {items : List α}

theorem length_le_joined (hne : ∀ item ∈ items, write item ≠ []) :
    items.length ≤ ([','].intercalate (items.map write)).length := by
  induction items with
  | nil => exact Nat.le_refl 0
  | cons item more ih =>
      obtain ⟨hfirst, hrest⟩ := List.forall_mem_cons.mp hne
      have hone := List.length_pos_of_ne_nil hfirst
      cases more with
      | nil => rwa [List.map_singleton, List.intercalate_singleton]
      | cons next more =>
          have hmore := ih hrest
          rw [List.map_cons, List.map_cons, List.intercalate_cons_cons, ← List.map_cons,
            List.length_append, List.length_append, List.length_cons]
          omega

theorem length_item_le_joined {item : α} (hmem : item ∈ items) :
    (write item).length ≤ ([','].intercalate (items.map write)).length := by
  induction items with
  | nil => cases hmem
  | cons first more ih =>
      cases more with
      | nil =>
          obtain rfl := List.mem_singleton.mp hmem
          simp only [List.map_singleton, List.intercalate_singleton, Nat.le_refl]
      | cons next more =>
          rw [List.map_cons, List.map_cons, List.intercalate_cons_cons, ← List.map_cons,
            List.length_append, List.length_append]
          rcases List.mem_cons.mp hmem with rfl | hmore
          · omega
          · have := ih hmore
            omega

-- All items are read, if each of them is read when a comma or the end of the list follows it.
theorem itemsUntil?_joined (hclosing : isGap closing = false) (hcomma : closing ≠ ',')
    (hitem : ∀ item ∈ items, ∀ c ∈ [',', closing], ∀ rest,
      item? (write item ++ c :: rest) = some (item, c :: rest))
    (hne : items ≠ []) {fuel : Nat} (hfuel : items.length ≤ fuel) (rest : List Char) :
    itemsUntil? closing item? fuel ([','].intercalate (items.map write) ++ closing :: rest) =
      some (items, rest) := by
  induction items generalizing fuel with
  | nil => exact absurd rfl hne
  | cons item more ih =>
      obtain ⟨hfirst, hrest⟩ := List.forall_mem_cons.mp hitem
      obtain ⟨fuel, rfl⟩ := Nat.exists_eq_add_of_le' (Nat.le_trans (Nat.le_add_left 1 _) hfuel)
      cases more with
      | nil =>
          rw [List.map_singleton, List.intercalate_singleton, itemsUntil?,
            hfirst closing (by simp) rest]
          simp only [Option.bind_eq_bind, Option.bind_some, next?_of_gap hclosing, if_true,
            Option.pure_def]
      | cons next more =>
          rw [List.map_cons, List.map_cons, List.intercalate_cons_cons, ← List.map_cons,
            List.append_assoc, List.append_assoc, List.singleton_append, itemsUntil?,
            hfirst ',' (by simp)]
          simp only [Option.bind_eq_bind, Option.bind_some, next?_of_gap (c := ',') (by decide),
            if_neg hcomma.symm, if_true, ih hrest (by simp) (Nat.le_of_succ_le_succ hfuel),
            Option.pure_def]

theorem listUntil?_joined (hclosing : isGap closing = false) (hcomma : closing ≠ ',')
    (hstarts : ∀ item ∈ items, ∃ c rest, write item = c :: rest ∧ isGap c = false ∧ c ≠ closing)
    (hitem : ∀ item ∈ items, ∀ c ∈ [',', closing], ∀ rest,
      item? (write item ++ c :: rest) = some (item, c :: rest)) (rest : List Char) :
    listUntil? closing item? ([','].intercalate (items.map write) ++ closing :: rest) =
      some (items, rest) := by
  cases hitems : items with
  | nil =>
      rw [List.map_nil, List.intercalate_nil, List.nil_append, listUntil?, next?_of_gap hclosing]
      simp only [Option.bind_eq_bind, Option.bind_some, if_true, Option.pure_def]
  | cons item more =>
      rw [← hitems]
      obtain ⟨c, front, hfront, hgap, hc⟩ := hstarts item (hitems ▸ List.mem_cons_self)
      obtain ⟨behind, hbehind⟩ : ∃ behind, [','].intercalate (items.map write) = c :: behind := by
        rw [hitems, List.map_cons, hfront]
        cases more with
        | nil => exact ⟨front, List.intercalate_singleton⟩
        | cons next more =>
            rw [List.map_cons, List.intercalate_cons_cons]
            exact ⟨_, rfl⟩
      have hlength : items.length ≤
          ([','].intercalate (items.map write) ++ closing :: rest).length := by
        have hne : ∀ item ∈ items, write item ≠ [] := by
          intro item hmem hnil
          obtain ⟨c, rest, hcons, -⟩ := hstarts item hmem
          cases hcons.symm.trans hnil
        have hjoined := length_le_joined hne
        rw [List.length_append]
        omega
      have hread := itemsUntil?_joined hclosing hcomma hitem (by simp [hitems]) hlength rest
      rw [listUntil?, hread, hbehind, List.cons_append, next?_of_gap hgap]
      simp only [Option.bind_eq_bind, Option.bind_some, if_neg hc]

end Lists

-- A number ends where the next item of its list comes, or the list is closed.
theorem endsNumber_of_mem {c closing : Char} (hclosing : closing.isDigit = false)
    (hc : c ∈ [',', closing]) (rest : List Char) : EndsNumber (c :: rest) := by
  intro other hother
  cases hother
  rcases List.mem_cons.mp hc with rfl | hc
  · decide
  · rwa [List.mem_singleton.mp hc]

theorem member?_writeMember {value? : List Char → Option (Json × List Char)}
    {member : String × Json} {rest : List Char}
    (h : value? (write member.2 ++ rest) = some (member.2, rest)) :
    member? value? (writeMember member ++ rest) = some (member, rest) := by
  have hsource : writeMember member ++ rest = '"' :: (member.1.toList.flatMap escapeChar ++
      '"' :: ':' :: (write member.2 ++ rest)) := by
    simp only [writeMember, quote, List.append_assoc, List.cons_append, List.nil_append]
  rw [hsource, member?, next?_of_gap (by decide)]
  simp only [Option.bind_eq_bind, Option.bind_some, if_true, string_escaped, Except.toOption,
    next?_of_gap (c := ':') (by decide), h, Option.pure_def]

theorem value?_integer (value : Int) (fuel : Nat) {rest : List Char} (hrest : EndsNumber rest) :
    value? (fuel + 1) ((toString value).toList ++ rest) = some (.integer value, rest) := by
  have hread := integer?_toString value hrest
  obtain ⟨c, front, hfront, hc⟩ : ∃ c front, (toString value).toList = c :: front ∧
      (c.isDigit = true ∨ c = '-') := by
    rw [toList_toString_int]
    split_ifs
    · obtain ⟨c, digits, heq, hc⟩ := exists_digit value.toNat
      exact ⟨c, digits, heq, .inl hc⟩
    · exact ⟨'-', _, rfl, .inr rfl⟩
  have hgap : isGap c = false := by
    rcases hc with hc | rfl
    · exact (starts_of_isDigit hc).gap
    · rfl
  have hother : ∀ {d : Char}, d.isDigit = false → d ≠ '-' → c ≠ d := by
    rintro d hd hne rfl
    rcases hc with hc | rfl
    · exact absurd (hd.symm.trans hc) (by decide)
    · exact hne rfl
  rw [hfront, List.cons_append] at hread ⊢
  rw [value?, next?_of_gap hgap]
  simp only [Option.bind_eq_bind, Option.bind_some, hread, Option.pure_def,
    if_neg (hother (d := '"') rfl (by decide)), if_neg (hother (d := '[') rfl (by decide)),
    if_neg (hother (d := '\x7b') rfl (by decide)), if_neg (hother (d := 'n') rfl (by decide)),
    if_neg (hother (d := 't') rfl (by decide)), if_neg (hother (d := 'f') rfl (by decide))]

-- A value is read from its written form, whatever follows, as long as a number ends there.
theorem value?_write (json : Json) {fuel : Nat} (hfuel : json.write.length ≤ fuel)
    {rest : List Char} (hrest : EndsNumber rest) :
    value? fuel (json.write ++ rest) = some (json, rest) := by
  induction json generalizing fuel rest with
  | null =>
      obtain ⟨fuel, rfl⟩ := Nat.exists_eq_add_of_le' (length_write_pos hfuel)
      rfl
  | flag value =>
      obtain ⟨fuel, rfl⟩ := Nat.exists_eq_add_of_le' (length_write_pos hfuel)
      cases value <;> rfl
  | integer value =>
      obtain ⟨fuel, rfl⟩ := Nat.exists_eq_add_of_le' (length_write_pos hfuel)
      exact value?_integer value fuel hrest
  | text value =>
      obtain ⟨fuel, rfl⟩ := Nat.exists_eq_add_of_le' (length_write_pos hfuel)
      rw [write, quote, List.append_assoc, List.cons_append, value?, next?_of_gap (by decide)]
      simp only [Option.bind_eq_bind, Option.bind_some, if_true, List.cons_append,
        List.nil_append, string_escaped]
      rfl
  | array items ih =>
      obtain ⟨fuel, rfl⟩ := Nat.exists_eq_add_of_le' (length_write_pos hfuel)
      rw [write, writeItems_eq] at hfuel ⊢
      have hlist : listUntil? ']' (value? fuel)
          ([','].intercalate (items.map write) ++ ']' :: rest) = some (items, rest) :=
        listUntil?_joined (by decide) (by decide)
        (fun item _ => by
          obtain ⟨c, front, hfront, hc⟩ := write_starts item
          exact ⟨c, front, hfront, hc.gap, hc.list⟩)
        (fun item hmem c hc rest => by
          have hlength : (write item).length ≤ ([','].intercalate (items.map write)).length :=
            length_item_le_joined hmem
          simp only [List.length_append, List.length_cons, List.length_nil] at hfuel
          exact ih item hmem (by omega) (endsNumber_of_mem (by decide) hc rest))
        rest
      rw [List.append_assoc, List.cons_append, value?, next?_of_gap (by decide)]
      simp only [Option.bind_eq_bind, Option.bind_some, List.singleton_append, hlist]
      rfl
  | object members ih =>
      obtain ⟨fuel, rfl⟩ := Nat.exists_eq_add_of_le' (length_write_pos hfuel)
      rw [write, writeMembers_eq] at hfuel ⊢
      have hlist : listUntil? '\x7d' (member? (value? fuel))
          ([','].intercalate (members.map writeMember) ++ '\x7d' :: rest) = some (members, rest) :=
        listUntil?_joined (by decide) (by decide)
        (fun member _ => ⟨'"', _, rfl, by decide, by decide⟩)
        (fun member hmem c hc rest => by
          have hlength : (writeMember member).length ≤
              ([','].intercalate (members.map writeMember)).length :=
            length_item_le_joined hmem
          simp only [writeMember, List.length_append, List.length_cons, List.length_nil]
            at hfuel hlength
          exact member?_writeMember
            (ih member hmem (by omega) (endsNumber_of_mem (by decide) hc rest)))
        rest
      rw [List.append_assoc, List.cons_append, value?, next?_of_gap (by decide)]
      simp only [Option.bind_eq_bind, Option.bind_some, List.singleton_append, hlist]
      rfl

theorem read?_compact (json : Json) : read? json.compact = some json := by
  have hread := value?_write json (Nat.le_refl _) (show EndsNumber [] from nofun)
  rw [List.append_nil] at hread
  rw [read?, compact, String.toList_ofList, hread]
  rfl

-- Lines

theorem newline_ne_hexDigit {n : Nat} (h : n < 16) : '\n' ≠ hexDigit n := by
  decide +revert

theorem newline_not_mem_escapeChar (c : Char) : '\n' ∉ escapeChar c := by
  unfold escapeChar
  split_ifs with hquote hback hform hline hreturn htab hcontrol
  · rcases hquote with rfl | rfl <;> decide
  · decide
  · decide
  · decide
  · decide
  · decide
  · simp only [List.mem_cons, List.not_mem_nil, or_false, not_or]
    exact ⟨by decide, by decide, by decide, by decide, newline_ne_hexDigit (by omega),
      newline_ne_hexDigit (Nat.mod_lt _ (by decide))⟩
  · rw [List.mem_singleton]
    exact fun h => hline h.symm

theorem newline_not_mem_quote (text : String) : '\n' ∉ quote text := by
  simp only [quote, List.cons_append, List.mem_cons, List.mem_append, List.mem_flatMap,
    List.not_mem_nil, or_false, not_or, not_exists, not_and]
  exact ⟨by decide, fun c _ => newline_not_mem_escapeChar c, by decide⟩

theorem newline_not_mem_joined {α : Type} {write : α → List Char} {items : List α}
    (h : ∀ item ∈ items, '\n' ∉ write item) : '\n' ∉ [','].intercalate (items.map write) := by
  induction items with
  | nil => nofun
  | cons item more ih =>
      obtain ⟨hfirst, hrest⟩ := List.forall_mem_cons.mp h
      cases more with
      | nil => rwa [List.map_singleton, List.intercalate_singleton]
      | cons next more =>
          rw [List.map_cons, List.map_cons, List.intercalate_cons_cons, ← List.map_cons,
            List.append_assoc, List.mem_append, List.singleton_append, List.mem_cons, not_or,
            not_or]
          exact ⟨hfirst, by decide, ih hrest⟩

theorem newline_not_mem_toDigits (n : Nat) : '\n' ∉ Nat.toDigits 10 n := fun h =>
  absurd (isDigit_toDigits '\n' h) (by decide)

-- A value is written on one line.
theorem newline_not_mem_write (json : Json) : '\n' ∉ json.write := by
  induction json with
  | null => decide
  | flag value => cases value <;> decide
  | integer value =>
      rw [write, toList_toString_int]
      split_ifs
      · exact newline_not_mem_toDigits _
      · exact List.not_mem_cons_of_ne_of_not_mem (by decide) (newline_not_mem_toDigits _)
  | text value => exact newline_not_mem_quote value
  | array items ih =>
      rw [write, writeItems_eq, List.mem_append, List.mem_cons, not_or, not_or]
      exact ⟨⟨by decide, newline_not_mem_joined ih⟩, by decide⟩
  | object members ih =>
      rw [write, writeMembers_eq, List.mem_append, List.mem_cons, not_or, not_or]
      refine ⟨⟨by decide, newline_not_mem_joined fun member hmem => ?_⟩, by decide⟩
      rw [writeMember, List.mem_append, List.mem_cons, not_or, not_or]
      exact ⟨newline_not_mem_quote member.1, by decide, ih member hmem⟩

end Switchboard.Json
