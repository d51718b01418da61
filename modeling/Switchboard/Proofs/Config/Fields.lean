import Switchboard.Proofs.Config.Sources

namespace Switchboard

theorem exists_of_bind_eq_ok {ε α β : Type} {first : Except ε α} {next : α → Except ε β}
    {value : β} (h : first >>= next = .ok value) :
    ∃ middle, first = .ok middle ∧ next middle = .ok value := by
  cases first with
  | error fault => cases h
  | ok middle => exact ⟨middle, rfl, h⟩

namespace ConfigFlags

-- Flags that repeat all standard settings do not count.
def counted (flags : ConfigFlags) : ConfigFlags := if flags = standard then none else flags

end ConfigFlags

namespace Config

-- One setting: the key at which a value of it stands, how that value is decoded, and where flags
-- and settings have it.
structure Field (α : Type) where
  key : String
  decode : Value → Except SettingFault α
  standard : α
  flag : ConfigFlags → Option α
  value : Config → α

-- What the flags, the variables and a file say about one setting, each by itself.
structure Sources (α : Type) where
  flag : Option α
  environment : Option Value
  file : Option Value

namespace Field

def logFilter : Field String where
  key := logFilterKey
  decode := Value.toText
  standard := Config.standard.logFilter
  flag := ConfigFlags.logFilter
  value := Config.logFilter

def logFormat : Field LogFormat where
  key := logFormatKey
  decode := Value.toChoice
  standard := Config.standard.logFormat
  flag := ConfigFlags.logFormat
  value := Config.logFormat

def domain : Field Domain where
  key := domainKey
  decode := Value.toChoice
  standard := Config.standard.domain
  flag := ConfigFlags.domain
  value := Config.domain

def tapeLength : Field UInt64 where
  key := tapeLengthKey
  decode := Value.toLength
  standard := Config.standard.tapeLength
  flag := ConfigFlags.tapeLength
  value := Config.tapeLength

-- The settings that there are.
inductive OfConfig : {α : Type} → Field α → Prop where
  | logFilter : OfConfig logFilter
  | logFormat : OfConfig logFormat
  | domain : OfConfig domain
  | tapeLength : OfConfig tapeLength

variable {α : Type} (field : Field α)

-- What a variable says counts, or else what the file says. An empty table in the variable says
-- nothing about a table in the file.
def withoutFlag (environment file : Option Value) : Except SettingFault α :=
  match environment, file with
  | some (.table []), some (.table entries) => field.decode (.table entries)
  | some value, _ => field.decode value
  | none, some value => field.decode value
  | none, none => .ok field.standard

-- A setting from its own sources, the flag first.
def resolve (sources : Sources α) : Except SettingFault α :=
  match sources.flag with
  | some value => .ok value
  | none => field.withoutFlag sources.environment sources.file

def sources (flags : ConfigFlags) (environment : Environment) (file : Layer) : Sources α where
  flag := field.flag flags.counted
  environment := environment.setting? field.key
  file := file.find? field.key

variable {field}

theorem settingOr_of_toConfig {layer : Layer} {config : Config} (h : layer.toConfig = .ok config)
    (hfield : field.OfConfig) :
    layer.settingOr field.key field.decode field.standard = .ok (field.value config) := by
  obtain ⟨logFilter, hfilter, h⟩ := exists_of_bind_eq_ok h
  obtain ⟨logFormat, hformat, h⟩ := exists_of_bind_eq_ok h
  obtain ⟨domain, hdomain, h⟩ := exists_of_bind_eq_ok h
  obtain ⟨tapeLength, hlength, h⟩ := exists_of_bind_eq_ok h
  cases h
  cases hfield with
  | logFilter => exact hfilter
  | logFormat => exact hformat
  | domain => exact hdomain
  | tapeLength => exact hlength

theorem find?_entry (key other : String) (value : Option Value) :
    Layer.find? (value.map fun value => (key, value)).toList other =
      if key = other then value else none := by
  cases value with
  | none => exact (ite_self none).symm
  | some value => exact Layer.find?_cons key other value []

theorem keys_entry (key : String) (value : Option Value) :
    (Layer.keys (value.map fun value => (key, value)).toList).Sublist [key] := by
  cases value with
  | none => exact List.nil_sublist [key]
  | some value => exact List.Sublist.refl [key]

theorem nodup_flags (flags : ConfigFlags) : flags.layer.keys.Nodup := by
  unfold ConfigFlags.layer
  dsimp only
  split_ifs
  · exact List.nodup_nil
  · have hkeys : ["log_filter", "log_format", "numeric_domain", "tape_length"].Nodup := by decide
    refine List.Nodup.sublist ?_ hkeys
    simp only [Layer.keys, List.map_append]
    exact (((keys_entry _ _).append (keys_entry _ _)).append (keys_entry _ _)).append
      (keys_entry _ _)

theorem toLength_toNat (length : UInt64) : Value.toLength (.integer length.toNat) = .ok length := by
  have hlength : length.toNat < 18446744073709551616 := length.toNat_lt
  have hcontains : (Numeral.Range.unsigned 64).contains length.toNat = true := by
    have hbounds : (0 : Int) ≤ length.toNat ∧ (length.toNat : Int) ≤ 18446744073709551615 := by
      omega
    exact decide_eq_true hbounds
  rw [Value.toLength, if_pos hcontains, Int.toNat_natCast, UInt64.ofNat_toNat]

-- What a flag says stands in the uppermost layer in a form that is decoded to the same.
theorem find?_flags (hfield : field.OfConfig) (flags : ConfigFlags) :
    match field.flag flags.counted with
    | some value => ∃ upper, flags.layer.find? field.key = some upper ∧
        (∀ entries, upper ≠ .table entries) ∧ field.decode upper = .ok value
    | none => flags.layer.find? field.key = none := by
  unfold ConfigFlags.counted ConfigFlags.layer
  dsimp only
  split_ifs with hstandard
  · cases hfield <;> rfl
  · obtain ⟨file, logFilter, logFormat, domain, tapeLength⟩ := flags
    simp only [Layer.find?_append, find?_entry]
    cases hfield with
    | logFilter =>
        cases logFilter with
        | none => rfl
        | some text => exact ⟨.text text, rfl, nofun, rfl⟩
    | logFormat =>
        cases logFormat with
        | none => rfl
        | some format => exact ⟨.text format.name, rfl, nofun, by cases format <;> rfl⟩
    | domain =>
        cases domain with
        | none => rfl
        | some domain => exact ⟨.text domain.name, rfl, nofun, by cases domain <;> rfl⟩
    | tapeLength =>
        cases tapeLength with
        | none => rfl
        | some length => exact ⟨.integer length.toNat, rfl, nofun, toLength_toNat length⟩

theorem decode_mergeValue (hfield : field.OfConfig) {upper lower : Value} {value : α}
    (htidy : upper.Tidy) (h : field.decode (Layer.mergeValue upper lower) = .ok value) :
    field.decode upper = .ok value ∨
      upper = .table [] ∧ (∃ entries, lower = .table entries) ∧ field.decode lower = .ok value := by
  cases hfield with
  | logFilter => exact .inl (Value.decode_upper (fun _ => nofun) h)
  | tapeLength => exact .inl (Value.decode_upper (fun _ => nofun) h)
  | logFormat => exact Value.toChoice_mergeValue htidy h
  | domain => exact Value.toChoice_mergeValue htidy h

theorem decode_empty (hfield : field.OfConfig) (value : α) :
    field.decode (.table []) ≠ .ok value := by
  cases hfield <;> nofun

theorem withoutFlag_of_decode (hfield : field.OfConfig) {upper : Value} {value : α}
    (h : field.decode upper = .ok value) (file : Option Value) :
    field.withoutFlag (some upper) file = .ok value := by
  unfold withoutFlag
  split
  · cases ‹some upper = _›
    exact absurd h (decode_empty hfield value)
  · cases ‹some upper = _›
    exact h
  · cases ‹some upper = _›
  · cases ‹some upper = _›

-- A setting that is found in the layers taken together is found in its own sources alone.
theorem resolve_of_settingOr (hfield : field.OfConfig) {flags : ConfigFlags}
    {environment : Environment} {file : Layer} {value : α}
    (h : ((flags.layer.above (Environment.layer environment)).above file).settingOr field.key
      field.decode field.standard = .ok value) :
    field.resolve (field.sources flags environment file) = .ok value := by
  have hflags := find?_flags hfield flags
  rw [Layer.settingOr, Layer.find?_above (Layer.nodup_above environment.nodup_layer _),
    Layer.find?_above (nodup_flags flags), environment.find?_layer] at h
  cases hflag : field.flag flags.counted with
  | some given =>
      rw [hflag] at hflags
      obtain ⟨upper, hupper, htable, hdecode⟩ := hflags
      have hover : ∀ lower, Layer.overlay (some upper) lower = some upper := by
        rintro (_ | lower)
        · rfl
        · rw [Layer.overlay, Value.mergeValue_of_not_tables]
          rintro ⟨above, below, rfl, -⟩
          exact htable above rfl
      rw [hupper, hover, hover] at h
      simp only [resolve, sources, hflag]
      exact hdecode.symm.trans h
  | none =>
      rw [hflag] at hflags
      have hnone : flags.layer.find? field.key = none := hflags
      rw [hnone, Layer.overlay] at h
      simp only [resolve, sources, hflag]
      rcases hupper : environment.setting? field.key with _ | upper <;>
        rcases hlower : file.find? field.key with _ | lower <;>
        simp only [hupper, hlower, Layer.overlay] at h
      · exact h
      · exact h
      · exact withoutFlag_of_decode hfield h none
      · rcases decode_mergeValue hfield (Environment.setting?_tidy hupper) h with
          hdecode | ⟨rfl, ⟨entries, rfl⟩, hdecode⟩
        · exact withoutFlag_of_decode hfield hdecode _
        · exact hdecode

end Field

end Config

end Switchboard
