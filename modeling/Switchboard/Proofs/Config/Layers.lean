import Switchboard.Config.Environment
import Switchboard.Config.Flags
import Mathlib.Data.List.Nodup
import Mathlib.Tactic.SplitIfs

namespace Switchboard

namespace Layer

def keys (layer : Layer) : List String := layer.map (·.1)

theorem keys_cons (key : String) (value : Value) (rest : Layer) :
    keys ((key, value) :: rest) = key :: keys rest := rfl

@[simp] theorem find?_nil (key : String) : find? [] key = none := rfl

theorem find?_cons (other key : String) (value : Value) (rest : Layer) :
    find? ((other, value) :: rest) key = if other = key then some value else find? rest key := by
  by_cases h : other = key
  · rw [if_pos h, find?, List.find?_cons_of_pos (by simpa using h)]
    rfl
  · rw [if_neg h, find?, List.find?_cons_of_neg (by simpa using h)]
    rfl

theorem find?_append (first second : Layer) (key : String) :
    find? (first ++ second) key = (find? first key).or (find? second key) := by
  rw [find?, List.find?_append, Option.map_or]
  rfl

theorem find?_eq_none {layer : Layer} {key : String} (h : key ∉ layer.keys) :
    layer.find? key = none := by
  induction layer with
  | nil => rfl
  | cons entry rest ih =>
      obtain ⟨other, value⟩ := entry
      rw [keys_cons, List.mem_cons, not_or] at h
      rw [find?_cons, if_neg (Ne.symm h.1)]
      exact ih h.2

-- A key that is put in answers with its value, and every other key as before.
theorem find?_put (key other : String) (value : Value) (layer : Layer) :
    (put key value layer).find? other =
      if key = other then some value else layer.find? other := by
  induction layer with
  | nil => exact find?_cons key other value []
  | cons entry rest ih =>
      obtain ⟨front, kept⟩ := entry
      rw [put]
      split_ifs with hfront hkey hkey
      · rw [find?_cons, if_pos hkey]
      · rw [find?_cons, find?_cons, if_neg hkey, if_neg (hfront ▸ hkey)]
      · rw [find?_cons, ih, if_pos hkey, if_neg (hkey ▸ hfront)]
      · rw [find?_cons, find?_cons, ih, if_neg hkey]

theorem mem_keys_put {key other : String} {value : Value} {layer : Layer} :
    other ∈ (put key value layer).keys ↔ other = key ∨ other ∈ layer.keys := by
  induction layer with
  | nil => simp [put, keys]
  | cons entry rest ih =>
      obtain ⟨front, kept⟩ := entry
      rw [put]
      split_ifs with hfront
      · subst hfront
        simp [keys_cons]
      · rw [keys_cons, keys_cons, List.mem_cons, List.mem_cons, ih, or_left_comm]

theorem nodup_put {layer : Layer} (h : layer.keys.Nodup) (key : String) (value : Value) :
    (put key value layer).keys.Nodup := by
  induction layer with
  | nil => exact List.nodup_singleton key
  | cons entry rest ih =>
      obtain ⟨front, kept⟩ := entry
      rw [keys_cons, List.nodup_cons] at h
      rw [put]
      split_ifs with hfront
      · subst hfront
        exact List.nodup_cons.mpr h
      · refine List.nodup_cons.mpr ⟨fun hmem => ?_, ih h.2⟩
        rcases mem_keys_put.mp hmem with heq | hmem
        · exact hfront heq
        · exact h.1 hmem

-- What stands at a key of two layers, from what stands there in each.
def overlay : Option Value → Option Value → Option Value
  | none, lower => lower
  | some upper, none => some upper
  | some upper, some lower => some (mergeValue upper lower)

-- Layers are merged key by key.
theorem find?_above {upper : Layer} (h : upper.keys.Nodup) (lower : Layer) (key : String) :
    (upper.above lower).find? key = overlay (upper.find? key) (lower.find? key) := by
  rw [above]
  induction upper generalizing lower with
  | nil => rw [mergeEntries, find?_nil, overlay]
  | cons entry rest ih =>
      obtain ⟨front, value⟩ := entry
      rw [keys_cons, List.nodup_cons] at h
      rw [mergeEntries, ih h.2, find?_put, find?_cons]
      split_ifs with hfront
      · subst hfront
        rw [find?_eq_none h.1, find?]
        cases List.find? (fun other => other.1 == front) lower <;> rfl
      · rfl

theorem mem_keys_above {upper lower : Layer} {key : String} :
    key ∈ (upper.above lower).keys ↔ key ∈ upper.keys ∨ key ∈ lower.keys := by
  rw [above]
  induction upper generalizing lower with
  | nil => simp [mergeEntries, keys]
  | cons entry rest ih =>
      obtain ⟨front, value⟩ := entry
      rw [mergeEntries, ih, mem_keys_put, keys_cons, List.mem_cons, or_assoc, or_left_comm]

theorem nodup_above {lower : Layer} (h : lower.keys.Nodup) (upper : Layer) :
    (upper.above lower).keys.Nodup := by
  rw [above]
  induction upper generalizing lower with
  | nil => rwa [mergeEntries]
  | cons entry rest ih =>
      obtain ⟨front, value⟩ := entry
      rw [mergeEntries]
      exact ih (nodup_put h front _)

theorem keys_finite (layer : Layer) : layer.finite.keys = layer.keys := by
  rw [finite]
  induction layer with
  | nil => rfl
  | cons entry rest ih =>
      obtain ⟨key, value⟩ := entry
      rw [finiteEntries, keys_cons, keys_cons, ih]

theorem find?_finite (layer : Layer) (key : String) :
    layer.finite.find? key = (layer.find? key).map finiteValue := by
  rw [finite]
  induction layer with
  | nil => rfl
  | cons entry rest ih =>
      obtain ⟨other, value⟩ := entry
      rw [finiteEntries, find?_cons, find?_cons, ih]
      split_ifs <;> rfl

theorem put_ne_nil (key : String) (value : Value) (layer : Layer) : put key value layer ≠ [] := by
  cases layer with
  | nil => nofun
  | cons entry rest =>
      obtain ⟨front, lower⟩ := entry
      rw [put]
      split_ifs <;> nofun

theorem put_eq_singleton {key name : String} {value kept : Value} {layer : Layer}
    (h : put key value layer = [(name, kept)]) :
    key = name ∧ value = kept ∧ (layer = [] ∨ ∃ lower, layer = [(name, lower)]) := by
  cases layer with
  | nil =>
      cases h
      exact ⟨rfl, rfl, .inl rfl⟩
  | cons entry rest =>
      obtain ⟨front, lower⟩ := entry
      rw [put] at h
      split_ifs at h with hfront
      · cases h
        exact ⟨rfl, rfl, .inr ⟨lower, by rw [hfront]⟩⟩
      · exact absurd (List.cons.inj h).2 (put_ne_nil key value rest)

end Layer

namespace Value

-- No key of a table comes twice.
def Tidy (value : Value) : Prop :=
  ∀ entries, value = .table entries → (entries.map (·.1)).Nodup

theorem mergeValue_of_not_tables {upper lower : Value}
    (h : ¬∃ above below, upper = .table above ∧ lower = .table below) :
    Layer.mergeValue upper lower = upper := by
  rw [Layer.mergeValue]
  rintro above below rfl rfl
  exact h ⟨above, below, rfl, rfl⟩

-- A setting that no table can be is made by the upper value alone.
theorem decode_upper {α : Type} {decode : Value → Except SettingFault α} {upper lower : Value}
    {value : α} (htable : ∀ entries, decode (.table entries) ≠ .ok value)
    (h : decode (Layer.mergeValue upper lower) = .ok value) : decode upper = .ok value := by
  by_cases htables : ∃ above below, upper = .table above ∧ lower = .table below
  · obtain ⟨above, below, rfl, rfl⟩ := htables
    rw [Layer.mergeValue] at h
    exact absurd h (htable _)
  · rwa [mergeValue_of_not_tables htables] at h

theorem eq_null_of_mergeValue {upper lower : Value} (h : Layer.mergeValue upper lower = .null) :
    upper = .null := by
  by_cases htables : ∃ above below, upper = .table above ∧ lower = .table below
  · obtain ⟨above, below, rfl, rfl⟩ := htables
    rw [Layer.mergeValue] at h
    cases h
  · rwa [mergeValue_of_not_tables htables] at h

theorem toChoice_single {α : Type} [Choice α] {name : String} {value : Value} {choice : α} :
    toChoice (.table [(name, value)]) = .ok choice ↔ chosen name = .ok choice ∧ value = .null := by
  rw [toChoice]
  cases (chosen name : Except SettingFault α) with
  | error fault => exact ⟨nofun, fun h => nomatch h.1⟩
  | ok given =>
      cases value with
      | null => exact ⟨fun h => ⟨h, rfl⟩, fun h => h.1⟩
      | _ => exact ⟨nofun, fun h => nomatch h.2⟩

theorem exists_single_of_toChoice {α : Type} [Choice α] {entries : List (String × Value)}
    {choice : α} (h : toChoice (.table entries) = .ok choice) :
    ∃ name, entries = [(name, .null)] ∧ chosen name = .ok choice := by
  match entries, h with
  | [(name, value)], h =>
      obtain ⟨hname, rfl⟩ := toChoice_single.mp h
      exact ⟨name, rfl, hname⟩

-- A table with one key that is left over from two tables comes from the upper one alone, unless
-- that one is empty.
theorem eq_single_of_above {upper lower : Layer} {name : String} (hne : upper ≠ [])
    (hnodup : upper.keys.Nodup) (h : upper.above lower = [(name, .null)]) :
    upper = [(name, .null)] := by
  have hkeys : ∀ key ∈ upper.keys, key = name := by
    intro key hkey
    have hmem := Layer.mem_keys_above.mpr (Or.inl (b := key ∈ lower.keys) hkey)
    rw [h] at hmem
    exact List.mem_singleton.mp hmem
  match upper, hne, hnodup with
  | (key, value) :: next :: rest, _, hnodup =>
      have hfirst := hkeys key List.mem_cons_self
      have hnext := hkeys next.1 (List.mem_cons_of_mem _ List.mem_cons_self)
      have hmem : key ∈ Layer.keys (next :: rest) :=
        List.mem_cons.mpr (.inl (hfirst.trans hnext.symm))
      exact absurd hmem (List.nodup_cons.mp hnodup).1
  | [(key, value)], _, _ =>
      rw [Layer.above, Layer.mergeEntries, Layer.mergeEntries] at h
      obtain ⟨rfl, hvalue, hlower⟩ := Layer.put_eq_singleton h
      rcases hlower with rfl | ⟨below, rfl⟩
      · rw [show value = .null from hvalue]
      · rw [List.find?_cons_of_pos (by simp)] at hvalue
        rw [eq_null_of_mergeValue hvalue]

-- A choice is never made by two tables together. It is the upper one that makes it, or the lower
-- one if the upper one is empty.
theorem toChoice_mergeValue {α : Type} [Choice α] {upper lower : Value} {choice : α}
    (htidy : upper.Tidy) (h : toChoice (Layer.mergeValue upper lower) = .ok choice) :
    toChoice upper = .ok choice ∨
      upper = .table [] ∧ (∃ entries, lower = .table entries) ∧ toChoice lower = .ok choice := by
  by_cases htables : ∃ above below, upper = .table above ∧ lower = .table below
  · obtain ⟨above, below, rfl, rfl⟩ := htables
    rw [Layer.mergeValue] at h
    by_cases hempty : above = []
    · subst hempty
      rw [Layer.mergeEntries] at h
      exact .inr ⟨rfl, ⟨below, rfl⟩, h⟩
    · obtain ⟨name, hentries, hname⟩ := exists_single_of_toChoice h
      rw [eq_single_of_above hempty (htidy above rfl) hentries]
      exact .inl (toChoice_single.mpr ⟨hname, rfl⟩)
  · rw [mergeValue_of_not_tables htables] at h
    exact .inl h

end Value

end Switchboard
