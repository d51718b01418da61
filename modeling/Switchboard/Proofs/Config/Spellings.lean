import Switchboard.Proofs.CommandLine.Options
import Switchboard.Proofs.Config.Places
import Switchboard.Proofs.Config.Words
import Switchboard.Proofs.Toml.Texts

namespace Switchboard

theorem Choice.foldCase_of_ofNameAnyCase? {α : Type} [Choice α] {text : String} {choice : α}
    (h : Choice.ofNameAnyCase? text = some choice) : foldCase (name choice) = foldCase text := by
  simpa using List.find?_some h

theorem Value.name_of_toChoice {α : Type} [Choice α] {text : String} {choice : α}
    (h : (toChoice (.text text) : Except SettingFault α).toOption = some choice) :
    Choice.name choice = text := by
  cases hchoice : (Choice.ofName? text : Option α) with
  | none =>
      rw [toChoice, chosen, hchoice] at h
      cases h
  | some found =>
      rw [toChoice, chosen, hchoice] at h
      cases h
      simpa using List.find?_some hchoice

namespace Config

open CommandLine

-- The settings whose values have names.
inductive Enumerated where
  | logFormat
  | domain
deriving DecidableEq, Repr

namespace Enumerated

def setting : Enumerated → Setting
  | .logFormat => .logFormat
  | .domain => .domain

def flag : Enumerated → Parameter ConfigFlags
  | .logFormat => ConfigFlags.logFormatFlag
  | .domain => ConfigFlags.domainFlag

def flagName : Enumerated → String
  | .logFormat => "log-format"
  | .domain => "numeric-domain"

def variableName : Enumerated → String
  | .logFormat => "TEXTDISPATCH_LOG_FORMAT"
  | .domain => "TEXTDISPATCH_NUMERIC_DOMAIN"

def Kind : Enumerated → Type
  | .logFormat => LogFormat
  | .domain => Domain

instance (setting : Enumerated) : Choice setting.Kind :=
  match setting with
  | .logFormat => inferInstanceAs (Choice LogFormat)
  | .domain => inferInstanceAs (Choice Domain)

-- The settings of a run, and the flags, that give this value alone.
def alone : (setting : Enumerated) → setting.Kind → Config
  | .logFormat, format => { standard with logFormat := format }
  | .domain, width => { standard with domain := width }

def flags : (setting : Enumerated) → setting.Kind → ConfigFlags
  | .logFormat, format => { ConfigFlags.none with logFormat := some format }
  | .domain, width => { ConfigFlags.none with domain := some width }

variable (setting : Enumerated) (text : String)

def alone? (value : Value) : Option Config :=
  (value.toChoice : Except SettingFault setting.Kind).toOption.map setting.alone

-- The same for a name that may be written in either case.
def inAnyCase? : Option Config := (Choice.ofNameAnyCase? text).map setting.alone

theorem isWord_name (choice : setting.Kind) :
    VariableText.isWord (Choice.foldCase (Choice.name choice)) = true := by
  cases setting <;> cases choice <;> decide

theorem ofNameAnyCase?_name (choice : setting.Kind) :
    Choice.ofNameAnyCase? (Choice.name choice) = some choice := by
  cases setting <;> cases choice <;> rfl

theorem longOption?_flagName :
    ConfigFlags.form.longOption? setting.flagName = some setting.flag := by
  cases setting <;> rfl

theorem store_flag (item : SystemText) :
    setting.flag.store item .none = (ConfigFlags.choice item).map setting.flags := by
  cases setting <;> rfl

theorem toConfig_flags (choice : setting.Kind) :
    (((setting.flags choice).layer.above []).above []).toConfig = .ok (setting.alone choice) := by
  cases setting <;> cases choice <;> rfl

theorem toConfig_single (value : Value) :
    (Layer.toConfig [(setting.setting.key, value)]).toOption = setting.alone? value := by
  cases setting with
  | logFormat =>
      have hsetting : Layer.settingOr [(logFormatKey, value)] logFormatKey Value.toChoice
          standard.logFormat = value.toChoice := rfl
      change (Layer.toConfig [(logFormatKey, value)]).toOption =
        (value.toChoice : Except SettingFault LogFormat).toOption.map (alone .logFormat)
      rw [Layer.toConfig, hsetting]
      cases (value.toChoice : Except SettingFault LogFormat) <;> rfl
  | domain =>
      have hsetting : Layer.settingOr [(domainKey, value)] domainKey Value.toChoice
          standard.domain = value.toChoice := rfl
      change (Layer.toConfig [(domainKey, value)]).toOption =
        (value.toChoice : Except SettingFault Domain).toOption.map (alone .domain)
      rw [Layer.toConfig, hsetting]
      cases (value.toChoice : Except SettingFault Domain) <;> rfl

theorem entry?_variableName :
    Environment.entry? setting.variableName text =
      some (setting.setting.key, VariableText.value text) := by
  obtain ⟨name, hname, hpath⟩ : ∃ name,
      Environment.settingName? setting.variableName = some name ∧
        Environment.keyPath name = [setting.setting.key] := by
    cases setting with
    | logFormat => exact ⟨logFormatKey, by decide +kernel, by decide +kernel⟩
    | domain => exact ⟨domainKey, by decide +kernel, by decide +kernel⟩
  have hkey : [setting.setting.key].contains "" = false := by cases setting <;> decide
  unfold Environment.entry?
  simp only [hname, bind, Option.bind, hpath, hkey, Bool.false_eq_true, if_false, pure,
    Environment.nested]

theorem layer_variable :
    Environment.layer [(setting.variableName, text)] =
      [(setting.setting.key, Layer.finiteValue (VariableText.value text))] := by
  unfold Environment.layer
  simp only [List.filterMap_cons, setting.entry?_variableName, List.filterMap_nil, List.foldl_cons,
    List.foldl_nil, Layer.put, Layer.finite, Layer.finiteEntries]

theorem find?_variable {name : String} (h : name ∈ ConfigFiles.placeNames) :
    Environment.find? [(setting.variableName, text)] name = none := by
  have hne : ∀ name ∈ ConfigFiles.placeNames, setting.variableName ≠ name := by
    cases setting <;> decide
  rw [Environment.find?, List.find?_cons_of_neg (by simpa using hne name h)]
  rfl

-- Names are written in such a way that no variable takes one for something else.
theorem value_of_inAnyCase? (h : (setting.inAnyCase? text).isSome = true) :
    VariableText.value text = .text text := by
  rw [inAnyCase?, Option.isSome_map] at h
  obtain ⟨choice, hchoice⟩ := Option.isSome_iff_exists.mp h
  refine VariableText.value_of_foldCase ?_
  rw [← Choice.foldCase_of_ofNameAnyCase? hchoice]
  exact setting.isWord_name choice

-- A name that is written exactly is found in any case.
theorem inAnyCase?_of_alone? {config : Config} (h : setting.alone? (.text text) = some config) :
    setting.inAnyCase? text = some config := by
  obtain ⟨choice, hchoice, rfl⟩ := Option.map_eq_some_iff.mp h
  obtain rfl := Value.name_of_toChoice hchoice
  rw [inAnyCase?, setting.ofNameAnyCase?_name, Option.map_some]

end Enumerated

section Load

variable {called : Option String} {items : List SystemText} {environment : Environment}
  {files : SystemText → FileAnswer}

theorem conclude_nil (result : Except ConfigFault Config) : conclude [] result = result := by
  cases result <;> rfl

-- Without a fault in a source, the settings are those of the layers.
theorem load_toOption {flags : ConfigFlags} {file : Layer}
    (hread : ConfigFlags.read called items = .ok flags)
    (hfind : (ConfigFiles.find flags environment).answered files = ([], file)) :
    ((load called items environment).answered files).toOption =
      ((flags.layer.above (Environment.layer environment)).above file).toConfig.toOption := by
  unfold load
  dsimp only
  rw [Reading.answered_bind, hread]
  simp only [hfind, List.append_nil, Reading.answered_pure, conclude_nil, ofLayers]
  cases ((flags.layer.above (Environment.layer environment)).above file).toConfig <;> rfl

theorem load_stopped {stop : Stop} (hread : ConfigFlags.read called items = .error stop) :
    ((load called items environment).answered files).toOption = none := by
  cases hload : (load called items environment).answered files with
  | error fault => rfl
  | ok config =>
      obtain ⟨flags, -, hflags, -⟩ := load_ok hload
      cases hread.symm.trans hflags

end Load

theorem isLoose_form : ConfigFlags.form.IsLoose := by
  unfold Form.IsLoose
  decide

theorem read_nil (called : Option String) : ConfigFlags.read called [] = .ok .none :=
  Form.read_nil isLoose_form _ _

theorem layer_none : ConfigFlags.none.layer = [] := rfl

theorem above_nil (layer : Layer) : Layer.above [] layer = layer := by
  rw [Layer.above, Layer.mergeEntries]

namespace Enumerated

variable (called : Option String) (setting : Enumerated) (text : String)

theorem load_variable {files : SystemText → FileAnswer} (hfiles : ConfigFiles.Lacking files) :
    ((load called [] [(setting.variableName, text)]).answered files).toOption =
      setting.alone? (Layer.finiteValue (VariableText.value text)) := by
  rw [load_toOption (read_nil called)
    (ConfigFiles.find_lacking rfl (fun name => setting.find?_variable text) hfiles),
    layer_none, above_nil, layer_variable, ← toConfig_single]
  rfl

theorem load_file {files : SystemText → FileAnswer}
    (hfiles : ConfigFiles.Holding files (Toml.assignment setting.setting text)) :
    ((load called [] []).answered files).toOption = setting.alone? (.text text) := by
  have hbasis : Layer.find? [(setting.setting.key, .text text)] ConfigFiles.extendsKey = none := by
    cases setting <;> rfl
  have hfind : (ConfigFiles.find .none []).answered files =
      ([], Layer.finite [(setting.setting.key, .text text)]) :=
    ConfigFiles.find_holding rfl (fun _ _ => rfl) (Toml.read_assignment _ _)
      (Toml.fault?_assignment _ _) hbasis hfiles
  rw [load_toOption (read_nil called) hfind, layer_none, above_nil, ← toConfig_single]
  rfl

theorem choice_text {α : Type} [Choice α] (text : String) :
    (ConfigFlags.choice (.text text) : Except ValueFault α) =
      match Choice.ofNameAnyCase? text with
      | some value => .ok value
      | none => .error (.malformed text unknownNameText) := rfl

section Flag

variable {called setting text} {items : List SystemText} {files : SystemText → FileAnswer}

theorem read_flag (h : Gives setting.flagName text items) :
    (ConfigFlags.read called items).toOption = (setting.flag.store (.text text) .none).toOption :=
  Form.read_of_gives isLoose_form setting.longOption?_flagName (by cases setting <;> decide)
    (by cases setting <;> decide) h _ _

theorem load_flag_of_store (h : Gives setting.flagName text items)
    (hfiles : ConfigFiles.Lacking files) {flags : ConfigFlags} (hfile : flags.file = none)
    (hstore : setting.flag.store (.text text) .none = .ok flags) :
    ((load called items []).answered files).toOption =
      ((flags.layer.above []).above []).toConfig.toOption := by
  have hread : (ConfigFlags.read called items).toOption = _ := read_flag h
  rw [hstore] at hread
  exact load_toOption (eq_ok_of_toOption hread)
    (ConfigFiles.find_lacking hfile (fun _ _ => rfl) hfiles)

theorem load_flag_of_refused (h : Gives setting.flagName text items) {fault : ValueFault}
    (hstore : setting.flag.store (.text text) .none = .error fault) :
    ((load called items []).answered files).toOption = none := by
  have hread : (ConfigFlags.read called items).toOption = _ := read_flag h
  rw [hstore] at hread
  cases hflags : ConfigFlags.read called items with
  | ok flags => rw [hflags] at hread; cases hread
  | error stop => exact load_stopped hflags

theorem load_flag (h : Gives setting.flagName text items) (hfiles : ConfigFiles.Lacking files) :
    ((load called items []).answered files).toOption = setting.inAnyCase? text := by
  have hstore := setting.store_flag (.text text)
  rw [choice_text] at hstore
  rw [inAnyCase?]
  cases hchoice : (Choice.ofNameAnyCase? text : Option setting.Kind) with
  | none =>
      rw [hchoice] at hstore
      exact load_flag_of_refused h hstore
  | some choice =>
      have hfile : (setting.flags choice).file = none := by cases setting <;> rfl
      rw [hchoice] at hstore
      rw [load_flag_of_store h hfiles hfile hstore, toConfig_flags]
      rfl

end Flag

end Enumerated

-- A name is taken from a file only as it is written, and so it is from a variable unless that is
-- read as something else than its text. A flag takes it in either case.
theorem load_spellings (called : Option String) (setting : Enumerated) (text : String)
    {items : List SystemText} (hitems : Gives setting.flagName text items)
    {empty files : SystemText → FileAnswer} (hempty : ConfigFiles.Lacking empty)
    (hfiles : ConfigFiles.Holding files (Toml.assignment setting.setting text)) :
    let byFlag := (load called items []).answered empty
    let byVariable := (load called [] [(setting.variableName, text)]).answered empty
    let byFile := (load called [] []).answered files
    byFlag.toOption = setting.inAnyCase? text ∧
      byVariable.toOption = setting.alone? (Layer.finiteValue (VariableText.value text)) ∧
      byFile.toOption = setting.alone? (.text text) ∧
      (byFile.toOption.isSome → byFlag.toOption = byFile.toOption) ∧
      (byFlag.toOption.isSome ∨ VariableText.value text = .text text →
        byVariable.toOption = byFile.toOption) := by
  intro byFlag byVariable byFile
  have hflag : byFlag.toOption = setting.inAnyCase? text := Enumerated.load_flag hitems hempty
  have hvariable : byVariable.toOption =
      setting.alone? (Layer.finiteValue (VariableText.value text)) :=
    setting.load_variable called text hempty
  have hfile : byFile.toOption = setting.alone? (.text text) :=
    setting.load_file called text hfiles
  refine ⟨hflag, hvariable, hfile, fun hsome => ?_, fun h => ?_⟩
  · obtain ⟨config, hconfig⟩ := Option.isSome_iff_exists.mp hsome
    rw [hconfig, hflag]
    exact setting.inAnyCase?_of_alone? text (hfile.symm.trans hconfig)
  · have hvalue : VariableText.value text = .text text :=
      h.elim (fun hsome => setting.value_of_inAnyCase? text (hflag ▸ hsome)) id
    have hfinite : Layer.finiteValue (.text text) = .text text := by simp [Layer.finiteValue]
    rw [hvariable, hfile, hvalue, hfinite]

-- A folder without files, and the same folder with one configuration file in it.
def workplace : SystemText → FileAnswer := fun path =>
  if path = .text "." then .ok (.folder (.text "/work")) else .error .missing

def workplaceWith (document : String) : SystemText → FileAnswer := fun path =>
  if path = .text "/work/.textdispatch.toml" then .ok (.file ⟨path, Text.Utf8.encode document⟩)
  else workplace path

-- A name with a capital letter is taken from a flag alone.
theorem load_spellings_capital :
    let name := "I8"
    let document := Toml.assignment .domain name
    ((load none [.text "--numeric-domain", .text name] []).answered workplace).toOption =
        some { standard with domain := .i8 } ∧
      ((load none [] [("TEXTDISPATCH_NUMERIC_DOMAIN", name)]).answered workplace).toOption = none ∧
      ((load none [] []).answered (workplaceWith document)).toOption = none := by
  decide +kernel

theorem load_spellings_exact :
    let document := Toml.assignment .domain "i8"
    let byFlag := (load none [attached "numeric-domain" "i8"] []).answered workplace
    let byVariable := (load none [] [("TEXTDISPATCH_NUMERIC_DOMAIN", "i8")]).answered workplace
    let byFile := (load none [] []).answered (workplaceWith document)
    byFlag.toOption = some { standard with domain := .i8 } ∧
      byVariable.toOption = byFlag.toOption ∧ byFile.toOption = byFlag.toOption := by
  intro document byFlag byVariable byFile
  have hlacking : ConfigFiles.Lacking workplace := by
    unfold ConfigFiles.Lacking
    decide +kernel
  have hplaces : ConfigFiles.standardPlaces (ConfigFiles.here (workplaceWith document)) =
      [⟨.text "/etc/xdg/textdispatch/config.toml", false⟩,
        ⟨.text "/etc/xdg/.textdispatch.toml", false⟩] ++
      ⟨.text "/work/.textdispatch.toml", false⟩ :: [] := by
    decide +kernel
  have htext : FoundFile.text ⟨.text "/work/.textdispatch.toml", Text.Utf8.encode document⟩ =
      .ok document := eq_ok_of_toOption (by decide +kernel)
  have hholding : ConfigFiles.Holding (workplaceWith document) document :=
    .first _ hplaces (by decide +kernel) rfl htext
      (Option.isNone_iff_eq_none.mp (by decide +kernel))
  obtain ⟨hflag, -, hfile, hexact, hvariable⟩ :=
    load_spellings none .domain "i8" .attached hlacking hholding
  have hname : (Enumerated.alone? .domain (.text "i8")).isSome = true := by decide
  have hanyCase : Enumerated.inAnyCase? .domain "i8" = some { standard with domain := .i8 } := by
    decide
  have hagree := hexact (hfile ▸ hname)
  refine ⟨hflag.trans hanyCase, ?_, hagree.symm⟩
  exact (hvariable (.inl (by rw [hflag, hanyCase]; rfl))).trans hagree.symm

end Config

end Switchboard
