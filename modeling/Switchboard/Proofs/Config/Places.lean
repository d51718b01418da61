import Switchboard.Proofs.Config.Load

namespace Switchboard

namespace Path

theorem names_ne_nil (text : List Char) : names text ≠ [] := by
  cases text with
  | nil => exact List.cons_ne_nil _ _
  | cons c rest =>
      rw [names]
      split_ifs
      · exact List.cons_ne_nil _ _
      · split <;> exact List.cons_ne_nil _ _

theorem names_cons {c : Char} (hc : c ≠ '/') {rest name : List Char} {more : List (List Char)}
    (h : names rest = name :: more) : names (c :: rest) = (c :: name) :: more := by
  rw [names, if_neg hc, h]

theorem names_append_slash (front back : List Char) :
    names (front ++ '/' :: back) = names front ++ names back := by
  induction front with
  | nil => rfl
  | cons c front ih =>
      by_cases hc : c = '/'
      · rw [List.cons_append, names, if_pos hc, ih, names, if_pos hc, List.cons_append]
      · obtain ⟨name, more, hnames⟩ := List.exists_cons_of_ne_nil (names_ne_nil front)
        have hboth : names (front ++ '/' :: back) = name :: (more ++ names back) := by
          rw [ih, hnames, List.cons_append]
        rw [List.cons_append, names_cons hc hboth, names_cons hc hnames, List.cons_append]

theorem names_of_not_mem {name : List Char} (h : '/' ∉ name) : names name = [name] := by
  induction name with
  | nil => rfl
  | cons c name ih =>
      rw [List.mem_cons, not_or] at h
      exact names_cons (Ne.symm h.1) (ih h.2)

-- A folder does not change the name of what stands in it.
theorem lastName?_join (folder : String) {name : String} (hslash : '/' ∉ name.toList)
    (hname : name ∉ ["", ".", ".."]) : lastName? (join folder name) = some name := by
  obtain ⟨front, hfront⟩ : ∃ front, names (join folder name).toList = front ++ [name.toList] := by
    rw [← names_of_not_mem hslash]
    unfold join
    split_ifs with hfolder
    · rcases hfolder with rfl | hend
      · exact ⟨[], by rw [String.empty_append, List.nil_append]⟩
      · have hsuffix : "/".toList <:+ folder.toList := by
          simpa using String.Slice.endsWith_string_iff.mp hend
        obtain ⟨front, hfront⟩ := hsuffix
        refine ⟨names front, ?_⟩
        rw [String.toList_append, ← hfront, List.append_assoc]
        exact names_append_slash front name.toList
    · refine ⟨names folder.toList, ?_⟩
      rw [String.toList_append, String.toList_append, List.append_assoc]
      exact names_append_slash folder.toList name.toList
  simp only [List.mem_cons, List.not_mem_nil, or_false, not_or] at hname
  obtain ⟨hempty, hdot, hdots⟩ := hname
  have hsteps : steps (join folder name) =
      ((front.map String.ofList).filter fun name => name != "" && name != ".") ++ [name] := by
    rw [steps, hfront, List.map_append, List.filter_append]
    simp [hempty, hdot]
  rw [lastName?, hsteps, List.getLast?_concat]
  exact if_neg hdots

end Path

namespace ConfigFiles

variable {files : SystemText → FileAnswer} {environment : Environment} {flags : ConfigFlags}

-- The places that are searched if no flag and no variable says anything about them.
def standardPlaces (here : String) : List Candidate := candidates .none [] here

def placeNames : List String :=
  ["TEXTDISPATCH_CONFIG_PATH", "XDG_CONFIG_HOME", "XDG_CONFIG_DIRS", "APPDATA", "LOCALAPPDATA",
    "HOME"]

theorem candidates_standard (hflags : flags.file = none)
    (hnames : ∀ name ∈ placeNames, environment.find? name = none) (here : String) :
    candidates flags environment here = standardPlaces here := by
  simp only [placeNames, List.forall_mem_cons, List.not_mem_nil, false_implies, implies_true,
    and_true] at hnames
  obtain ⟨hpath, hhome, hfolders, happ, hlocal, huser⟩ := hnames
  simp only [candidates, namedFile, folderOf, systemFolders, hflags, hpath, hhome, hfolders, happ,
    hlocal, huser]
  rfl

theorem mem_of_mem_firstOfEach {seen candidates : List Candidate} {candidate : Candidate}
    (h : candidate ∈ firstOfEach seen candidates) : candidate ∈ candidates := by
  induction candidates generalizing seen with
  | nil => exact h
  | cons first rest ih =>
      rw [firstOfEach] at h
      split_ifs at h
      · exact List.mem_cons_of_mem first (ih h)
      · rcases List.mem_cons.mp h with rfl | h
        · exact List.mem_cons_self
        · exact List.mem_cons_of_mem first (ih h)

-- Each of these places has a name, and none of them must be there.
theorem named_of_mem_standardPlaces {here : String} {candidate : Candidate}
    (h : candidate ∈ standardPlaces here) :
    (Path.lastName? candidate.path.shown).isSome = true ∧ candidate.required = false := by
  have hplaces : standardPlaces here =
      firstOfEach [] (underFolder "/etc/xdg" ++ [inFolder here [dottedName]]) := rfl
  rw [hplaces] at h
  rcases List.mem_append.mp (mem_of_mem_firstOfEach h) with hfixed | hhere
  · have hnamed : ∀ candidate ∈ underFolder "/etc/xdg",
        (Path.lastName? candidate.path.shown).isSome = true ∧ candidate.required = false := by
      decide +kernel
    exact hnamed candidate hfixed
  · obtain rfl := List.mem_singleton.mp hhere
    have hname : Path.lastName? (Path.join here dottedName) = some dottedName :=
      Path.lastName?_join here (by decide) (by decide)
    have hshown : (inFolder here [dottedName]).path.shown = Path.join here dottedName := rfl
    rw [hshown, hname]
    exact ⟨rfl, rfl⟩

theorem regular_answered {path : SystemText} (hname : (Path.lastName? path.shown).isSome = true) :
    (files path = .error .missing → (regular path).answered files = .ok none) ∧
    ∀ file, files path = .ok (.file file) → (regular path).answered files = .ok (some file) := by
  have hnamed : ¬(Path.lastName? path.shown).isNone = true := by
    rw [← Option.not_isSome, hname]
    decide
  have hplace : (Reading.place path).answered files = files path := rfl
  unfold regular
  dsimp only
  rw [if_neg hnamed, Reading.answered_bind, hplace]
  refine ⟨fun hfile => ?_, fun file hfile => ?_⟩
  · rw [hfile]
    rfl
  · rw [hfile]
    rfl

theorem settingsAt_missing {candidate : Candidate}
    (hplace : candidate ∈ standardPlaces (here files))
    (hfile : files candidate.path = .error .missing) :
    (settingsAt candidate).answered files = .ok none := by
  obtain ⟨hname, hrequired⟩ := named_of_mem_standardPlaces hplace
  unfold settingsAt
  rw [Reading.answered_bind, (regular_answered hname).1 hfile]
  simp only [hrequired]
  rfl

-- Places without a file are passed over.
theorem firstLayer_append {before after : List Candidate} {required others : List ConfigFault}
    (hplaces : ∀ candidate ∈ before, candidate ∈ standardPlaces (here files))
    (hmissing : ∀ candidate ∈ before, files candidate.path = .error .missing) :
    (firstLayer (before ++ after) required others).answered files =
      (firstLayer after required others).answered files := by
  induction before with
  | nil => rfl
  | cons candidate before ih =>
      obtain ⟨hplace, hplaces⟩ := List.forall_mem_cons.mp hplaces
      obtain ⟨hfirst, hmissing⟩ := List.forall_mem_cons.mp hmissing
      rw [List.cons_append, firstLayer, Reading.answered_bind, settingsAt_missing hplace hfirst]
      exact ih hplaces hmissing

theorem find_answered (hflags : flags.file = none)
    (hnames : ∀ name ∈ placeNames, environment.find? name = none) :
    (find flags environment).answered files =
      (firstLayer (standardPlaces (here files)) [] []).answered files := by
  have hplace : (Reading.place (.text ".")).answered files = files (.text ".") := rfl
  rw [← candidates_standard hflags hnames, find, Reading.answered_bind, hplace]
  rfl

-- No configuration file is there.
def Lacking (files : SystemText → FileAnswer) : Prop :=
  ∀ candidate ∈ standardPlaces (here files), files candidate.path = .error .missing

theorem find_lacking (hflags : flags.file = none)
    (hnames : ∀ name ∈ placeNames, environment.find? name = none) (h : Lacking files) :
    (find flags environment).answered files = ([], []) := by
  rw [find_answered hflags hnames, ← List.append_nil (standardPlaces (here files)),
    firstLayer_append (fun _ hplace => hplace) h]
  rfl

-- The first configuration file that is there holds this document. Its true name, too, is none of
-- another format.
inductive Holding (files : SystemText → FileAnswer) (document : String) : Prop where
  | first (before : List Candidate) {candidate : Candidate} {after : List Candidate}
      {file : FoundFile} (hsplit : standardPlaces (here files) = before ++ candidate :: after)
      (hbefore : ∀ earlier ∈ before, files earlier.path = .error .missing)
      (hfile : files candidate.path = .ok (.file file)) (htext : file.text = .ok document)
      (hformat : formatFault? file.path.shown = none) : Holding files document

theorem chain_document {file : FoundFile} {document : String} {entries : Layer}
    (htext : file.text = .ok document) (hformat : formatFault? file.path.shown = none)
    (hread : Toml.Document.read document = .ok entries)
    (hedition : Toml.Edition.fault? document = none)
    (hbasis : Layer.find? entries extendsKey = none) :
    (chain chainLimit [] file).answered files = .ok entries.finite := by
  have hlimit : 0 < chainLimit := by decide
  obtain ⟨fuel, hfuel⟩ := Nat.exists_eq_add_one.mpr hlimit
  have hlayer : layerOf file.path.shown file = .ok entries := by
    rw [layerOf, htext, hformat]
    simp only [hread, hedition]
  have hnone : basis? file.path.shown entries = .ok none := by rw [basis?, hbasis]
  rw [hfuel, chain]
  simp only [hlayer, hnone]
  rfl

-- What stands in the file is all that is found.
theorem find_holding {document : String} {entries : Layer} (hflags : flags.file = none)
    (hnames : ∀ name ∈ placeNames, environment.find? name = none)
    (hread : Toml.Document.read document = .ok entries)
    (hedition : Toml.Edition.fault? document = none)
    (hbasis : Layer.find? entries extendsKey = none) (h : Holding files document) :
    (find flags environment).answered files = ([], entries.finite) := by
  obtain @⟨before, candidate, after, file, hsplit, hbefore, hfile, htext, hformat⟩ := h
  have hplaces : ∀ earlier ∈ before, earlier ∈ standardPlaces (here files) := fun earlier hmem =>
    hsplit ▸ List.mem_append_left _ hmem
  have hplace : candidate ∈ standardPlaces (here files) :=
    hsplit ▸ List.mem_append_right _ List.mem_cons_self
  have hsettings : (settingsAt candidate).answered files = .ok (some entries.finite) := by
    unfold settingsAt
    rw [Reading.answered_bind,
      (regular_answered (named_of_mem_standardPlaces hplace).1).2 file hfile]
    simp only [Reading.answered_bind, chain_document htext hformat hread hedition hbasis]
    rfl
  rw [find_answered hflags hnames, hsplit, firstLayer_append hplaces hbefore, firstLayer,
    Reading.answered_bind, hsettings]
  rfl

end ConfigFiles

end Switchboard
