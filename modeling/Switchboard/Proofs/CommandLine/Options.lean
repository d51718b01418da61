import Switchboard.CommandLine.Walk

namespace Switchboard.CommandLine

section Cut

variable {mark : Char} {chars before after : List Char}

theorem cutAt_of_notMem (h : mark ∉ chars) : cutAt mark chars = (chars, none) := by
  induction chars with
  | nil => rfl
  | cons c chars ih =>
      rw [List.mem_cons, not_or] at h
      obtain ⟨hc, hrest⟩ := h
      rw [cutAt, if_neg (by simpa using Ne.symm hc), ih hrest]

theorem cutAt_append (h : mark ∉ before) :
    cutAt mark (before ++ mark :: after) = (before, some after) := by
  induction before with
  | nil => simp [cutAt]
  | cons c before ih =>
      rw [List.mem_cons, not_or] at h
      obtain ⟨hc, hrest⟩ := h
      rw [List.cons_append, cutAt, if_neg (by simpa using Ne.symm hc), ih hrest]

end Cut

-- An option with its value behind it in the same item.
def attached (long text : String) : SystemText := .text ("--" ++ long ++ "=" ++ text)

def bare (long : String) : SystemText := .text ("--" ++ long)

-- The items in which an option can be given a value. An item of its own must not look like another
-- option.
inductive Gives (long text : String) : List SystemText → Prop where
  | attached : Gives long text [attached long text]
  | separate (h : Spelling.ofItem (.text text) = .plain) : Gives long text [bare long, .text text]

theorem ofItem_long {rest : List Char} {name : String} (hrest : rest ≠ [])
    (hname : name.toList = '-' :: '-' :: rest) :
    Spelling.ofItem (.text name) = .long (.text (String.ofList (cutAt '=' rest).1))
      ((cutAt '=' rest).2.map fun value => .text (String.ofList value)) := by
  obtain ⟨c, tail, rfl⟩ := List.exists_cons_of_ne_nil hrest
  rw [Spelling.ofItem, hname]
  rfl

variable {long : String}

theorem ofItem_attached (h : '=' ∉ long.toList) (text : String) :
    Spelling.ofItem (attached long text) = .long (.text long) (some (.text text)) := by
  have hchars : ("--" ++ long ++ "=" ++ text).toList =
      '-' :: '-' :: (long.toList ++ '=' :: text.toList) := by
    simp [String.toList_append]
  have hne : long.toList ++ '=' :: text.toList ≠ [] :=
    List.append_ne_nil_of_right_ne_nil _ (List.cons_ne_nil _ _)
  rw [attached, ofItem_long hne hchars, cutAt_append h, String.ofList_toList, Option.map_some,
    String.ofList_toList]

theorem ofItem_bare (hne : long.toList ≠ []) (h : '=' ∉ long.toList) :
    Spelling.ofItem (bare long) = .long (.text long) none := by
  have hchars : ("--" ++ long).toList = '-' :: '-' :: long.toList := by
    simp [String.toList_append]
  rw [bare, ofItem_long hne hchars, cutAt_of_notMem h, String.ofList_toList, Option.map_none]

variable {D : Type}

-- All that a form can be given may be left out, and nothing excludes anything else.
def Form.IsLoose (form : Form D) : Prop :=
  ∀ parameter ∈ form.parameters, parameter.required = false ∧ parameter.excludes = []

-- What has been read once the first option has its value.
def Progress.first (parameter : Parameter D) (draft : D) : Progress D :=
  { Progress.start draft with used := [parameter.label] }

theorem toOption_bind {ε α β : Type} (first : Except ε α) (next : α → Except ε β) :
    (first >>= next).toOption = first.toOption.bind fun value => (next value).toOption := by
  cases first <;> rfl

section Scope

variable {scope : Scope D} {parameter : Parameter D} {blank : D}

theorem Scope.check_of_loose {progress : Progress D} (h : scope.form.IsLoose) :
    scope.check progress = .ok progress.draft := by
  have hclash : scope.clash? progress.used = none := by
    unfold Scope.clash?
    simp only [List.findSome?_eq_none_iff, List.mem_filterMap, Option.map_eq_none_iff,
      List.find?_eq_none]
    rintro first ⟨label, -, hfirst⟩ second ⟨other, -, hsecond⟩
    rw [(h first (List.mem_of_find?_eq_some hfirst)).2,
      (h second (List.mem_of_find?_eq_some hsecond)).2]
    simp
  have hmissing : (scope.form.parameters.filter fun parameter =>
      parameter.required && !progress.used.contains parameter.label) = [] := by
    rw [List.filter_eq_nil_iff]
    intro parameter hmem
    simp [(h parameter hmem).1]
  rw [check, hclash]
  simp only [hmissing]
  rfl

-- The first value is refused if its option does not store it, and for no other reason.
theorem Scope.give_start (value : SystemText) :
    (orRefuse (scope.give parameter [value] (.start blank))).toOption =
      (parameter.store value blank).toOption.map (.first parameter) := by
  have hall : storeAll parameter [value] blank = parameter.store value blank := by
    rw [storeAll]
    cases parameter.store value blank <;> rfl
  cases hstore : parameter.store value blank with
  | ok draft => simp [give, Progress.start, Progress.use, hall, hstore, orRefuse]; rfl
  | error fault => simp [give, Progress.start, hall, hstore, orRefuse]; rfl

theorem Scope.readItem_option {item : SystemText} {value : Option SystemText}
    (hitem : Spelling.ofItem item = .long (.text long) value)
    (hlong : scope.form.longOption? long = some parameter) (rest : List SystemText) :
    scope.readItem item rest (.start blank) =
      scope.openOption parameter value (.start blank) := by
  have hread : scope.readLong (.text long) value rest (.start blank) =
      (scope.openOption parameter value (.start blank)).map some := by
    unfold Scope.readLong
    simp only [SystemText.text?, hlong]
    cases scope.openOption parameter value (.start blank) <;> rfl
  unfold Scope.readItem
  simp only [hitem, hread]
  cases scope.openOption parameter value (.start blank) <;> rfl

theorem Scope.readItem_value {item : SystemText} {progress : Progress D}
    (hitem : Spelling.ofItem item = .plain) (hseparated : progress.separated = false)
    (hexpecting : progress.expecting = .value parameter) (rest : List SystemText) :
    scope.readItem item rest progress =
      .ok { progress with pending := some (parameter, [item]), expecting := .nothing } := by
  simp only [readItem, hseparated, hitem, readValue, hexpecting]
  rfl

theorem Scope.settled_start : scope.settled (.start blank) = .ok (.start blank) := rfl

-- Up to the last item nothing is refused but the value itself.
theorem Scope.settled_of_gives {text : String} {items : List SystemText}
    (hcommands : scope.commands = []) (hlong : scope.form.longOption? long = some parameter)
    (hne : long.toList ≠ []) (hmark : '=' ∉ long.toList) (h : Gives long text items) :
    (scope.walk items (.start blank) >>= fun walked => scope.settled walked.1).toOption =
      (parameter.store (.text text) blank).toOption.map (.first parameter) := by
  have hgive : (orRefuse (scope.give parameter [.text text] (.start blank))).toOption =
      (parameter.store (.text text) blank).toOption.map (.first parameter) :=
    Scope.give_start (.text text)
  have hcommand : ∀ item, scope.command? item = none := fun item => by
    rw [command?, hcommands, List.find?_nil]
  rw [← hgive]
  cases h with
  | attached =>
      rw [walk, hcommand, readItem_option (ofItem_attached hmark text) hlong, openOption,
        settled_start]
      cases hanswer : orRefuse (scope.give parameter [.text text] (.start blank)) with
      | error stop =>
          simp only [hanswer, bind, Except.bind]
          rfl
      | ok progress =>
          rw [hanswer] at hgive
          obtain ⟨draft, -, rfl⟩ := Option.map_eq_some_iff.mp hgive.symm
          simp only [hanswer, bind, Except.bind]
          rfl
  | separate hplain =>
      rw [walk, hcommand, readItem_option (ofItem_bare hne hmark) hlong, openOption, settled_start]
      simp only [bind, Except.bind, pure, Except.pure]
      rw [walk, hcommand, readItem_value hplain rfl rfl]
      rfl

end Scope

section Form

variable {form : Form D}

theorem Form.read_nil (hloose : form.IsLoose) (path : String) (blank : D) :
    form.read path blank [] = .ok blank := by
  have hcheck : (⟨form, [], path⟩ : Scope D).check (.start blank) = .ok blank :=
    Scope.check_of_loose hloose
  exact hcheck

-- A line with one option and its value is accepted if the option stores the value.
theorem Form.read_of_gives {parameter : Parameter D} {text : String} {items : List SystemText}
    (hloose : form.IsLoose) (hlong : form.longOption? long = some parameter)
    (hne : long.toList ≠ []) (hmark : '=' ∉ long.toList) (h : Gives long text items)
    (path : String) (blank : D) :
    (form.read path blank items).toOption = (parameter.store (.text text) blank).toOption := by
  let scope : Scope D := ⟨form, [], path⟩
  have hread : form.read path blank items =
      (scope.walk items (.start blank) >>= fun walked => scope.settled walked.1) >>=
        scope.check := by
    rw [bind_assoc]
    rfl
  have hchecked : ∀ progress : Progress D, scope.check progress = .ok progress.draft :=
    fun progress => Scope.check_of_loose hloose
  rw [hread, toOption_bind, Scope.settled_of_gives rfl hlong hne hmark h]
  cases parameter.store (.text text) blank with
  | ok draft => exact congrArg Except.toOption (hchecked _)
  | error fault => rfl

end Form

end Switchboard.CommandLine
