import Switchboard.Config.Load
import Switchboard.Proofs.Config.Fields

namespace Switchboard

namespace ConfigFiles

-- The folder in which the program runs.
def here (files : SystemText → FileAnswer) : String :=
  match files (.text ".") with
  | .ok (.folder path) => path.shown
  | _ => ""

-- A place from which settings are taken.
def Gives (files : SystemText → FileAnswer) (candidate : Candidate) : Prop :=
  ∃ layer, (settingsAt candidate).answered files = .ok (some layer)

-- A place with a document in which these entries stand.
def Holds (files : SystemText → FileAnswer) (candidate : Candidate) (entries : Layer) : Prop :=
  ∃ file text, files candidate.path = .ok (.file file) ∧ file.text = .ok text ∧
    Toml.Document.read text = .ok entries

-- The one file that counts is the first that gives settings. There need not be one.
inductive Discovers (files : SystemText → FileAnswer) (candidates : List Candidate) :
    Layer → Prop where
  | nothing (h : ∀ candidate ∈ candidates, ¬Gives files candidate) : Discovers files candidates []
  | file (before : List Candidate) {candidate : Candidate} {after : List Candidate}
      {entries : Layer} (hsplit : candidates = before ++ candidate :: after)
      (hbefore : ∀ earlier ∈ before, ¬Gives files earlier) (hgives : Gives files candidate)
      (h : Holds files candidate entries) : Discovers files candidates entries

variable {files : SystemText → FileAnswer}

theorem regular_some {path : SystemText} {file : FoundFile}
    (h : (regular path).answered files = .ok (some file)) : files path = .ok (.file file) := by
  unfold regular at h
  dsimp only at h
  split_ifs at h
  · cases h
  · have hplace : (Reading.place path).answered files = files path := rfl
    rw [Reading.answered_bind, hplace] at h
    split at h
    · cases h
      assumption
    · cases h
    · cases h
    · cases h

theorem layerOf_ok {path : String} {file : FoundFile} {entries : Layer}
    (h : layerOf path file = .ok entries) :
    ∃ text, file.text = .ok text ∧ Toml.Document.read text = .ok entries := by
  unfold layerOf at h
  split at h
  · cases h
  · cases h
  · split at h
    · cases h
    · cases h
    · cases h
      exact ⟨_, ‹_›, ‹_›⟩

-- A file that does not name another one gives what stands in it.
theorem chain_ok {fuel : Nat} {above : List String} {file : FoundFile} {layer : Layer}
    (h : (chain fuel above file).answered files = .ok layer) :
    ∃ text entries, file.text = .ok text ∧ Toml.Document.read text = .ok entries ∧
      (Layer.find? entries extendsKey = none → layer = Layer.finite entries) := by
  cases fuel with
  | zero => cases h
  | succ fuel =>
      unfold chain at h
      dsimp only at h
      split_ifs at h
      · cases h
      · cases hlayer : layerOf file.path.shown file with
        | error fault => rw [hlayer] at h; cases h
        | ok entries =>
            obtain ⟨text, htext, hread⟩ := layerOf_ok hlayer
            refine ⟨text, entries, htext, hread, fun hnone => ?_⟩
            have hbasis : basis? file.path.shown entries = .ok none := by rw [basis?, hnone]
            simp only [hlayer, hbasis] at h
            cases h
            rfl

theorem settingsAt_some {candidate : Candidate} {layer : Layer}
    (h : (settingsAt candidate).answered files = .ok (some layer)) :
    ∃ entries, Holds files candidate entries ∧
      (Layer.find? entries extendsKey = none → layer = Layer.finite entries) := by
  unfold settingsAt at h
  rw [Reading.answered_bind] at h
  cases hregular : (regular candidate.path).answered files with
  | error fault => rw [hregular] at h; cases h
  | ok found =>
      rw [hregular] at h
      cases found with
      | none =>
          dsimp only at h
          split_ifs at h <;> cases h
      | some file =>
          dsimp only at h
          rw [Reading.answered_bind] at h
          cases hchain : (chain chainLimit [] file).answered files with
          | error fault => rw [hchain] at h; cases h
          | ok found =>
              rw [hchain] at h
              cases h
              obtain ⟨text, entries, htext, hread, hlayer⟩ := chain_ok hchain
              exact ⟨entries, ⟨file, text, regular_some hregular, htext, hread⟩, hlayer⟩

theorem not_gives {candidate : Candidate} {answer : Result (Option Layer)}
    (h : (settingsAt candidate).answered files = answer)
    (hnone : ∀ layer, answer ≠ .ok (some layer)) : ¬Gives files candidate := by
  rintro ⟨layer, hlayer⟩
  exact hnone layer (h.symm.trans hlayer)

theorem Discovers.cons {candidate : Candidate} {rest : List Candidate} {entries : Layer}
    (hnone : ¬Gives files candidate) (h : Discovers files rest entries) :
    Discovers files (candidate :: rest) entries := by
  cases h with
  | nothing h => exact .nothing (List.forall_mem_cons.mpr ⟨hnone, h⟩)
  | @file before found after entries hsplit hbefore hgives h =>
      exact .file (candidate :: before) (by rw [hsplit]; rfl)
        (List.forall_mem_cons.mpr ⟨hnone, hbefore⟩) hgives h

-- Places are passed over up to the first that gives settings, and a required one never.
theorem firstLayer_ok {candidates : List Candidate} {required others : List ConfigFault}
    {layer : Layer}
    (h : (firstLayer candidates required others).answered files = ([], layer)) :
    required = [] ∧ ∃ entries, Discovers files candidates entries ∧
      (Layer.find? entries extendsKey = none → layer = Layer.finite entries) := by
  induction candidates generalizing required others with
  | nil =>
      obtain ⟨hfaults, rfl⟩ := Prod.mk.inj h
      exact ⟨(List.append_eq_nil_iff.mp hfaults).1, [], .nothing nofun, fun _ => rfl⟩
  | cons candidate rest ih =>
      rw [firstLayer, Reading.answered_bind] at h
      cases hsettings : (settingsAt candidate).answered files with
      | error fault =>
          rw [hsettings] at h
          dsimp only at h
          split_ifs at h
          · exact absurd (ih h).1 (by simp)
          · obtain ⟨hrequired, entries, hentries, hlayer⟩ := ih h
            exact ⟨hrequired, entries, hentries.cons (not_gives hsettings nofun), hlayer⟩
      | ok given =>
          rw [hsettings] at h
          cases given with
          | none =>
              obtain ⟨hrequired, entries, hentries, hlayer⟩ := ih h
              exact ⟨hrequired, entries, hentries.cons (not_gives hsettings nofun), hlayer⟩
          | some found =>
              obtain ⟨rfl, rfl⟩ := Prod.mk.inj h
              obtain ⟨entries, hholds, hlayer⟩ := settingsAt_some hsettings
              exact ⟨rfl, entries, .file [] rfl nofun ⟨_, hsettings⟩ hholds, hlayer⟩

theorem find_ok {flags : ConfigFlags} {environment : Environment} {layer : Layer}
    (h : (find flags environment).answered files = ([], layer)) :
    ∃ entries, Discovers files (candidates flags environment (here files)) entries ∧
      (Layer.find? entries extendsKey = none → layer = Layer.finite entries) := by
  have hplace : (Reading.place (.text ".")).answered files = files (.text ".") := rfl
  rw [find, Reading.answered_bind, hplace] at h
  exact (firstLayer_ok h).2

end ConfigFiles

namespace Config

-- Settings come out of a run of the loader only if nothing is wrong with any source.
theorem conclude_ok {faults : List ConfigFault} {result : Except ConfigFault Config}
    {config : Config} (h : conclude faults result = .ok config) :
    faults = [] ∧ result = .ok config := by
  cases result with
  | error fault => rcases faults with _ | ⟨_, _ | ⟨_, _⟩⟩ <;> cases h
  | ok value =>
      rcases faults with _ | ⟨_, _ | ⟨_, _⟩⟩
      · exact ⟨rfl, h⟩
      · cases h
      · cases h

theorem load_ok {called : Option String} {items : List SystemText} {environment : Environment}
    {files : SystemText → FileAnswer} {config : Config}
    (h : (load called items environment).answered files = .ok config) :
    ∃ flags layer, ConfigFlags.read called items = .ok flags ∧
      (ConfigFiles.find flags environment).answered files = ([], layer) ∧
      ((flags.layer.above (Environment.layer environment)).above layer).toConfig = .ok config := by
  unfold load at h
  dsimp only at h
  rw [Reading.answered_bind] at h
  cases hread : ConfigFlags.read called items with
  | error stop =>
      rw [hread] at h
      have hfaults := (conclude_ok h).1
      cases hfaults
  | ok flags =>
      rw [hread] at h
      obtain ⟨hfaults, hlayers⟩ := conclude_ok h
      refine ⟨flags, ((ConfigFiles.find flags environment).answered files).2, rfl, ?_, ?_⟩
      · exact Prod.ext hfaults rfl
      · unfold ofLayers at hlayers
        split at hlayers
        · cases hlayers
          assumption
        · cases hlayers

-- Each setting comes from its own sources: its flag, or else its variable, or else its key in the
-- one file that is found, or else the standard settings.
theorem load_resolves {called : Option String} {items : List SystemText}
    {environment : Environment} {files : SystemText → FileAnswer} {config : Config}
    (h : (load called items environment).answered files = .ok config) :
    ∃ flags entries, ConfigFlags.read called items = .ok flags ∧
      ConfigFiles.Discovers files
        (ConfigFiles.candidates flags environment (ConfigFiles.here files)) entries ∧
      (Layer.find? entries ConfigFiles.extendsKey = none →
        ∀ {α : Type} {field : Field α}, field.OfConfig →
          field.resolve (field.sources flags environment (Layer.finite entries)) =
            .ok (field.value config)) := by
  obtain ⟨flags, layer, hflags, hfind, hconfig⟩ := load_ok h
  obtain ⟨entries, hentries, hlayer⟩ := ConfigFiles.find_ok hfind
  refine ⟨flags, entries, hflags, hentries, fun hnone α field hfield => ?_⟩
  obtain rfl := hlayer hnone
  exact Field.resolve_of_settingOr hfield (Field.settingOr_of_toConfig hconfig hfield)

theorem eq_ok_of_toOption {ε α : Type} {result : Except ε α} {value : α}
    (h : result.toOption = some value) : result = .ok value := by
  cases result with
  | error fault => cases h
  | ok found => rw [Option.some.inj h]

-- One setting from each source: a flag over a variable, a variable over a file, a file, and the
-- standard settings.
theorem load_resolves_layered :
    let items : List SystemText := ["--numeric-domain", "I64"].map .text
    let environment : Environment := [("HOME", "/home"), ("TEXTDISPATCH_NUMERIC_DOMAIN", "i8"),
      ("textdispatch_tape_length", "5")]
    let document : FoundFile := ⟨.text "/home/.textdispatch.toml",
      Text.Utf8.encode "log_filter = 'warn'\ntape_length = 7\n"⟩
    let files : SystemText → FileAnswer := fun path =>
      if path = document.path then .ok (.file document) else .error .missing
    ∃ flags entries, ConfigFlags.read (some "textdispatch") items = .ok flags ∧
      ConfigFiles.Discovers files
        (ConfigFiles.candidates flags environment (ConfigFiles.here files)) entries ∧
      let file := Layer.finite entries
      Field.domain.resolve (Field.domain.sources flags environment file) = .ok .i64 ∧
      Field.tapeLength.resolve (Field.tapeLength.sources flags environment file) = .ok 5 ∧
      Field.logFilter.resolve (Field.logFilter.sources flags environment file) = .ok "warn" ∧
      Field.logFormat.resolve (Field.logFormat.sources flags environment file) = .ok .compact := by
  intro items environment document files
  have hload : (load (some "textdispatch") items environment).answered files =
      .ok ⟨"warn", .compact, .i64, 5⟩ := eq_ok_of_toOption (by decide +kernel)
  have htext : document.text = .ok "log_filter = 'warn'\ntape_length = 7\n" :=
    eq_ok_of_toOption (by decide +kernel)
  have hextends : (Toml.Document.read "log_filter = 'warn'\ntape_length = 7\n").toOption.all
      (fun entries => (Layer.find? entries ConfigFiles.extendsKey).isNone) = true := by
    decide +kernel
  obtain ⟨flags, entries, hflags, hfile, hfields⟩ := load_resolves hload
  have hnone : Layer.find? entries ConfigFiles.extendsKey = none := by
    cases hfile with
    | nothing => rfl
    | file before hsplit hbefore hgives h =>
        obtain ⟨file, text, hfound, hread, hentries⟩ := h
        obtain rfl : document = file := by
          simp only [files] at hfound
          split_ifs at hfound
          cases hfound
          rfl
        cases htext.symm.trans hread
        simpa [hentries, Except.toOption] using hextends
  exact ⟨flags, entries, hflags, hfile, hfields hnone .domain, hfields hnone .tapeLength,
    hfields hnone .logFilter, hfields hnone .logFormat⟩

-- Flags that give all settings their standard values are passed over as a whole, so variables
-- show through them.
theorem load_passes_over_flags :
    let items : List SystemText := ["--log-filter", "info", "--log-format", "compact",
      "--numeric-domain", "i32", "--tape-length", "30000"].map .text
    let environment : Environment :=
      [("TEXTDISPATCH_NUMERIC_DOMAIN", "i8"), ("TEXTDISPATCH_TAPE_LENGTH", "5")]
    ∃ flags config, ConfigFlags.read (some "textdispatch") items = .ok flags ∧
      (load (some "textdispatch") items environment).answered (fun _ => .error .missing) =
        .ok config ∧
      flags.domain = some .i32 ∧ config.domain = .i8 ∧
      flags.tapeLength = some 30000 ∧ config.tapeLength = 5 := by
  refine ⟨.standard, ⟨"info", .compact, .i8, 5⟩, ?_, ?_, rfl, rfl, rfl, rfl⟩
  · exact eq_ok_of_toOption (by decide +kernel)
  · exact eq_ok_of_toOption (by decide +kernel)

end Config

end Switchboard
