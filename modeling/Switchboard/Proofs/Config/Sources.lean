import Switchboard.Proofs.Config.Layers

namespace Switchboard

namespace VariableText

-- In a table that is written out in a variable, a key that comes again counts as the last one.
theorem entries?_nodup {fuel : Nat} {source : List Char} {entries : List (String × Value)}
    {rest : List Char} (h : entries? fuel source = some (entries, rest)) :
    (Layer.keys entries).Nodup := by
  induction fuel generalizing source entries rest with
  | zero => rw [entries?] at h; cases h
  | succ fuel ih =>
      unfold entries? at h
      split at h
      · cases h
      · cases h
        exact List.nodup_nil
      · rename_i count heq _
        obtain rfl : fuel = count := Nat.succ.inj heq
        simp only [Option.bind_eq_bind, Option.bind_eq_some_iff] at h
        obtain ⟨⟨key, behind⟩, -, h⟩ := h
        split at h
        · rw [Option.bind_eq_some_iff] at h
          obtain ⟨⟨value, after⟩, -, h⟩ := h
          dsimp only at h
          split at h
          · rw [Option.bind_eq_some_iff] at h
            obtain ⟨⟨others, last⟩, hothers, h⟩ := h
            cases h
            have hnodup := ih hothers
            dsimp only
            split_ifs with hany
            · exact hnodup
            · refine List.nodup_cons.mpr ⟨fun hmem => hany ?_, hnodup⟩
              obtain ⟨entry, hentry, hkey⟩ := List.mem_map.mp hmem
              exact List.any_eq_true.mpr ⟨entry, hentry, by simpa using hkey⟩
          · cases h
            exact List.nodup_singleton key
          · cases h
        · cases h

theorem scalar_ne_table (text : String) (entries : List (String × Value)) :
    scalar text ≠ .table entries := by
  unfold scalar
  dsimp only
  split <;> nofun

theorem value?_tidy {fuel : Nat} {source : List Char} {value : Value} {rest : List Char}
    (h : value? fuel source = some (value, rest)) : value.Tidy := by
  rintro entries rfl
  cases fuel with
  | zero => rw [value?] at h; cases h
  | succ fuel =>
      rw [value?] at h
      simp only [Option.bind_eq_bind, Option.bind_some, Option.bind_map, Option.bind_none,
        Option.pure_def] at h
      split at h
      · cases h
      · cases h
      · split at h
        · obtain ⟨⟨all, behind⟩, hall, h⟩ := Option.bind_eq_some_iff.mp h
          cases h
          exact entries?_nodup hall
        · obtain ⟨⟨all, behind⟩, -, h⟩ := Option.bind_eq_some_iff.mp h
          cases h
        · obtain ⟨⟨all, behind⟩, -, h⟩ := Option.bind_eq_some_iff.mp h
          cases h
        · cases h
        · cases h
        · simp only [Option.some.injEq, Prod.mk.injEq] at h
          exact absurd h.1 (scalar_ne_table _ entries)

theorem whole_tidy (text : String) : (whole text).Tidy := by
  unfold whole
  split
  · exact value?_tidy ‹_›
  · exact nofun

theorem value_tidy (text : String) : (value text).Tidy := by
  unfold value
  dsimp only
  split
  · exact nofun
  · exact whole_tidy _

end VariableText

theorem Value.Tidy.finite {value : Value} (h : value.Tidy) : (Layer.finiteValue value).Tidy := by
  intro entries heq
  cases value with
  | table inner =>
      rw [Layer.finiteValue] at heq
      cases heq
      change (Layer.keys (Layer.finite inner)).Nodup
      rw [Layer.keys_finite]
      exact h inner rfl
  | array items => rw [Layer.finiteValue] at heq; cases heq
  | real value =>
      rw [Layer.finiteValue] at heq
      split at heq <;> cases heq
  | _ => rw [Layer.finiteValue] at heq <;> cases heq

namespace Environment

-- What the variables say about settings, one after another.
def entries (environment : Environment) : Layer :=
  environment.filterMap fun (name, text) => entry? name text

-- What the last variable for a setting says about it.
def setting? (environment : Environment) (key : String) : Option Value :=
  (Layer.find? environment.entries.reverse key).map Layer.finiteValue

theorem find?_puts (entries start : Layer) (key : String) :
    (entries.foldl (fun layer (entry : String × Value) => Layer.put entry.1 entry.2 layer)
      start).find? key = (Layer.find? entries.reverse key).or (start.find? key) := by
  induction entries generalizing start with
  | nil => rfl
  | cons entry rest ih =>
      obtain ⟨front, value⟩ := entry
      rw [List.foldl_cons, ih, Layer.find?_put, List.reverse_cons, Layer.find?_append,
        Layer.find?_cons, Layer.find?_nil, Option.or_assoc]
      split_ifs <;> rfl

theorem nodup_puts (entries : Layer) {start : Layer} (h : start.keys.Nodup) :
    (entries.foldl (fun layer (entry : String × Value) => Layer.put entry.1 entry.2 layer)
      start).keys.Nodup := by
  induction entries generalizing start with
  | nil => exact h
  | cons entry rest ih => exact ih (Layer.nodup_put h entry.1 entry.2)

theorem find?_layer (environment : Environment) (key : String) :
    (Environment.layer environment).find? key = environment.setting? key := by
  rw [layer, Layer.find?_finite, setting?]
  have hputs := find?_puts environment.entries [] key
  rw [Layer.find?_nil, Option.or_none] at hputs
  rw [← hputs]
  rfl

theorem nodup_layer (environment : Environment) : (Environment.layer environment).keys.Nodup := by
  rw [layer, Layer.keys_finite]
  exact nodup_puts environment.entries List.nodup_nil

theorem nested_tidy {value : Value} (h : value.Tidy) (path : List String) :
    (nested path value).Tidy := by
  cases path with
  | nil => exact h
  | cons key rest =>
      rintro entries ⟨⟩
      exact List.nodup_singleton key

theorem entry?_tidy {name text key : String} {value : Value}
    (h : entry? name text = some (key, value)) : value.Tidy := by
  unfold entry? at h
  obtain ⟨setting, -, h⟩ := Option.bind_eq_some_iff.mp h
  dsimp only at h
  split at h
  · cases h
  · split at h
    · cases h
    · cases h
      exact nested_tidy (VariableText.value_tidy text) _

theorem setting?_tidy {environment : Environment} {key : String} {value : Value}
    (h : environment.setting? key = some value) : value.Tidy := by
  obtain ⟨found, hfound, rfl⟩ := Option.map_eq_some_iff.mp h
  obtain ⟨entry, hentry, rfl⟩ := Option.map_eq_some_iff.mp hfound
  have hmem := List.mem_reverse.mp (List.mem_of_find?_eq_some hentry)
  obtain ⟨⟨name, text⟩, -, hentry⟩ := List.mem_filterMap.mp hmem
  exact (entry?_tidy hentry).finite

end Environment

end Switchboard
