import Switchboard.Host
import Switchboard.Proofs.CommandLine.Options
import Switchboard.Proofs.Text.Lossy

namespace Switchboard

theorem SystemText.toList_shown (item : SystemText) :
    item.shown.toList = Text.Utf8.decodeLossy item.bytes := by
  cases item with
  | text value => exact (Text.Utf8.decodeLossy_encode value).symm
  | raw bytes => exact String.toList_ofList

namespace ConfigFlags

open Text.Utf8

-- An item that is the name of a flag and nothing else.
def Bare (item : SystemText) : Prop := ∃ name ∈ names, item.bytes = encode name

-- An item that is the name of a flag and behind an equality sign a value, which need not be text.
def Attached (item : SystemText) : Prop :=
  ∃ name ∈ names, ∃ value, item.bytes = encode name ++ 0x3D :: value

-- Items that are settings from the first to the last. What stands behind the bare name of a flag is
-- its value, whatever it looks like.
inductive Settings : List SystemText → Prop where
  | nil : Settings []
  | attached {item : SystemText} {rest : List SystemText} (hitem : Attached item)
      (hrest : Settings rest) : Settings (item :: rest)
  | separate {item value : SystemText} {rest : List SystemText} (hitem : Bare item)
      (hrest : Settings rest) : Settings (item :: value :: rest)

theorem plain_of_mem_names {name : String} (h : name ∈ names) :
    '=' ∉ name.toList ∧ ∀ c ∈ name.toList, c.toNat < 0x80 := by
  have hplain : names.all (fun name =>
      name.toList.all fun c => c != '=' && decide (c.toNat < 0x80)) = true := by decide
  simp only [List.all_eq_true, Bool.and_eq_true, bne_iff_ne, decide_eq_true_eq] at hplain
  exact ⟨fun hmem => (hplain name h '=' hmem).1 rfl, fun c hmem => (hplain name h c hmem).2⟩

section Item

variable {item : SystemText}

theorem bare_iff : Bare item ↔ ∃ name ∈ names, item.shown.toList = name.toList := by
  refine exists_congr fun name => and_congr_right fun hname => ?_
  have hread : decodeLossy item.bytes = name.toList ++ [] ↔ _ :=
    decodeLossy_eq_append_iff (plain_of_mem_names hname).2
  rw [SystemText.toList_shown, ← List.append_nil name.toList, hread]
  simp

theorem attached_iff :
    Attached item ↔ ∃ name ∈ names, ∃ value, item.shown.toList = name.toList ++ '=' :: value := by
  refine exists_congr fun name => and_congr_right fun hname => ?_
  have hplain : ∀ c ∈ (name ++ "=").toList, c.toNat < 0x80 := by
    intro c hmem
    rw [String.toList_append] at hmem
    rcases List.mem_append.mp hmem with hmem | hmem
    · exact (plain_of_mem_names hname).2 c hmem
    · rw [List.mem_singleton.mp hmem]
      decide
  have hread : ∀ value, decodeLossy item.bytes = (name ++ "=").toList ++ value ↔ _ :=
    fun value => decodeLossy_eq_append_iff hplain
  have hmark : encode "=" = [0x3D] := by decide
  simp only [encode_append, hmark, String.toList_append, List.append_assoc, List.cons_append,
    List.nil_append] at hread
  rw [SystemText.toList_shown]
  constructor
  · rintro ⟨value, hvalue⟩
    exact ⟨_, (hread _).mpr ⟨value, hvalue, rfl⟩⟩
  · rintro ⟨value, hvalue⟩
    obtain ⟨rest, hrest, -⟩ := (hread value).mp hvalue
    exact ⟨rest, hrest⟩

theorem use?_bare (h : Bare item) : use? item = some .beforeValue := by
  obtain ⟨name, hname, hshown⟩ := bare_iff.mp h
  rw [use?, hshown, CommandLine.cutAt_of_notMem (plain_of_mem_names hname).1]
  simp [hname]

theorem use?_attached (h : Attached item) : use? item = some .withValue := by
  obtain ⟨name, hname, value, hshown⟩ := attached_iff.mp h
  rw [use?, hshown, CommandLine.cutAt_append (plain_of_mem_names hname).1]
  simp [hname]

theorem use?_cases (item : SystemText) :
    (use? item = some .withValue ∧ Attached item) ∨ (use? item = some .beforeValue ∧ Bare item) ∨
      use? item = .none := by
  by_cases hmark : '=' ∈ item.shown.toList
  · obtain ⟨name, value, hshown, hname⟩ := List.eq_append_cons_of_mem hmark
    have huse : use? item =
        if names.contains (String.ofList name) then some .withValue else .none := by
      rw [use?, hshown, CommandLine.cutAt_append hname]
      rfl
    by_cases hlisted : String.ofList name ∈ names
    · have hattached : Attached item := by
        refine attached_iff.mpr ⟨String.ofList name, hlisted, value, ?_⟩
        rw [hshown, String.toList_ofList]
      exact .inl ⟨by simp [huse, hlisted], hattached⟩
    · exact .inr (.inr (by simp [huse, hlisted]))
  · have huse : use? item = if names.contains item.shown then some .beforeValue else .none := by
      simp only [use?, CommandLine.cutAt_of_notMem hmark, String.ofList_toList]
      rfl
    by_cases hlisted : item.shown ∈ names
    · exact .inr (.inl ⟨by simp [huse, hlisted], bare_iff.mpr ⟨item.shown, hlisted, rfl⟩⟩)
    · exact .inr (.inr (by simp [huse, hlisted]))

theorem use?_eq_none_iff : use? item = .none ↔ ¬Bare item ∧ ¬Attached item := by
  constructor
  · intro hnone
    refine ⟨fun hbare => ?_, fun hattached => ?_⟩
    · cases hnone.symm.trans (use?_bare hbare)
    · cases hnone.symm.trans (use?_attached hattached)
  · rintro ⟨hbare, hattached⟩
    obtain ⟨-, h⟩ | ⟨-, h⟩ | hnone := use?_cases item
    · exact absurd h hattached
    · exact absurd h hbare
    · exact hnone

theorem use?_eq_withValue_iff : use? item = some .withValue ↔ Attached item := by
  refine ⟨fun huse => ?_, use?_attached⟩
  obtain ⟨-, h⟩ | ⟨hbare, -⟩ | hnone := use?_cases item
  · exact h
  · cases huse.symm.trans hbare
  · cases huse.symm.trans hnone

theorem use?_eq_beforeValue_iff : use? item = some .beforeValue ↔ Bare item := by
  refine ⟨fun huse => ?_, use?_bare⟩
  obtain ⟨hattached, -⟩ | ⟨-, h⟩ | hnone := use?_cases item
  · cases huse.symm.trans hattached
  · exact h
  · cases huse.symm.trans hnone

end Item

section Leading

-- The flags at the front and their values, whatever these are, and what follows them.
def leading : List SystemText → List SystemText × List SystemText
  | [] => ([], [])
  | item :: rest =>
      match use? item with
      | .none => ([], item :: rest)
      | some .withValue =>
          let (flags, others) := leading rest
          (item :: flags, others)
      | some .beforeValue =>
          match rest with
          | [] => ([item], [])
          | value :: rest =>
              let (flags, others) := leading rest
              (item :: value :: flags, others)

variable {item value : SystemText} {rest : List SystemText}

theorem leading_nil : leading [] = ([], []) := rfl

theorem leading_attached (h : Attached item) :
    leading (item :: rest) = (item :: (leading rest).1, (leading rest).2) := by
  rw [leading.eq_def]
  simp only [use?_attached h]

theorem leading_separate (h : Bare item) :
    leading (item :: value :: rest) =
      (item :: value :: (leading rest).1, (leading rest).2) := by
  rw [leading.eq_def]
  simp only [use?_bare h]

theorem leading_cut (h : Bare item) : leading [item] = ([item], []) := by
  rw [leading.eq_def]
  simp only [use?_bare h]

theorem leading_other (hbare : ¬Bare item) (hattached : ¬Attached item) :
    leading (item :: rest) = ([], item :: rest) := by
  rw [leading.eq_def]
  simp only [use?_eq_none_iff.mpr ⟨hbare, hattached⟩]

-- The cases of a command line by what its first item is, with what follows the setting there.
theorem leading_induction {motive : List SystemText → Prop} (nil : motive [])
    (other : ∀ item rest, ¬Bare item → ¬Attached item → motive (item :: rest))
    (attached : ∀ item rest, Attached item → motive rest → motive (item :: rest))
    (cut : ∀ item, Bare item → motive [item])
    (separate : ∀ item value rest, Bare item → motive rest → motive (item :: value :: rest))
    (items : List SystemText) : motive items := by
  induction items using leading.induct with
  | case1 => exact nil
  | case2 item rest huse =>
      obtain ⟨hbare, hattached⟩ := use?_eq_none_iff.mp huse
      exact other item rest hbare hattached
  | case3 item rest huse _ _ _ ih => exact attached item rest (use?_eq_withValue_iff.mp huse) ih
  | case4 item huse => exact cut item (use?_eq_beforeValue_iff.mp huse)
  | case5 item huse value rest _ _ _ ih =>
      exact separate item value rest (use?_eq_beforeValue_iff.mp huse) ih

theorem append_leading (items : List SystemText) :
    (leading items).1 ++ (leading items).2 = items := by
  induction items using leading_induction with
  | nil => rfl
  | other item rest hbare hattached => rw [leading_other hbare hattached, List.nil_append]
  | attached item rest hitem ih => rw [leading_attached hitem, List.cons_append, ih]
  | cut item hitem => rw [leading_cut hitem, List.append_nil]
  | separate item value rest hitem ih =>
      rw [leading_separate hitem, List.cons_append, List.cons_append, ih]

-- A flag waits in vain for its value only at the very end.
theorem settings_leading (items : List SystemText) :
    Settings (leading items).1 ∨
    ∃ before item, (leading items).1 = before ++ [item] ∧ Settings before ∧ Bare item ∧
      (leading items).2 = [] := by
  induction items using leading_induction with
  | nil => exact .inl .nil
  | other item rest hbare hattached =>
      rw [leading_other hbare hattached]
      exact .inl .nil
  | attached item rest hitem ih =>
      rw [leading_attached hitem]
      obtain h | ⟨before, last, hlast, h, hbare, hend⟩ := ih
      · exact .inl (.attached hitem h)
      · exact .inr ⟨item :: before, last, by rw [hlast]; rfl, .attached hitem h, hbare, hend⟩
  | cut item hitem =>
      rw [leading_cut hitem]
      exact .inr ⟨[], item, rfl, .nil, hitem, rfl⟩
  | separate item value rest hitem ih =>
      rw [leading_separate hitem]
      obtain h | ⟨before, last, hlast, h, hbare, hend⟩ := ih
      · exact .inl (.separate hitem h)
      · refine .inr ⟨item :: value :: before, last, ?_, .separate hitem h, hbare, hend⟩
        rw [hlast]
        rfl

theorem leading_of_head? {items : List SystemText}
    (h : ∀ item, items.head? = some item → ¬Bare item ∧ ¬Attached item) :
    leading items = ([], items) := by
  cases items with
  | nil => rfl
  | cons item rest => exact leading_other (h item rfl).1 (h item rfl).2

theorem head?_leading (items : List SystemText) (h : (leading items).2.head? = some item) :
    ¬Bare item ∧ ¬Attached item := by
  induction items using leading_induction with
  | nil => cases h
  | other first rest hbare hattached =>
      rw [leading_other hbare hattached] at h
      obtain rfl := Option.some.inj h
      exact ⟨hbare, hattached⟩
  | attached first rest hfirst ih =>
      rw [leading_attached hfirst] at h
      exact ih h
  | cut first hfirst =>
      rw [leading_cut hfirst] at h
      cases h
  | separate first value rest hfirst ih =>
      rw [leading_separate hfirst] at h
      exact ih h

-- No longer part of the items in front is made of settings alone.
theorem Settings.length_le {front : List SystemText} (h : Settings front) {items : List SystemText}
    (hstarts : front <+: items) : front.length ≤ (leading items).1.length := by
  obtain ⟨rest, rfl⟩ := hstarts
  induction h with
  | nil => exact Nat.zero_le _
  | attached hitem _ ih =>
      rw [List.cons_append, leading_attached hitem]
      exact Nat.succ_le_succ ih
  | separate hitem _ ih =>
      rw [List.cons_append, List.cons_append, leading_separate hitem]
      exact Nat.succ_le_succ (Nat.succ_le_succ ih)

end Leading

namespace Split

theorem walk_eq_leading (split : Split) (items : List SystemText) :
    split.walk false items =
      ⟨split.flags ++ (leading items).1, split.start + (leading items).1.length⟩ := by
  induction items using leading_induction generalizing split with
  | nil => simp [walk, leading_nil]
  | other item rest hbare hattached =>
      simp [walk, use?_eq_none_iff.mpr ⟨hbare, hattached⟩, leading_other hbare hattached]
  | attached item rest hitem ih =>
      have hnext : (decide (Use.withValue = .beforeValue)) = false := rfl
      simp only [walk, use?_attached hitem, hnext, ih, leading_attached hitem, taking,
        List.append_assoc, List.singleton_append, List.length_cons]
      congr 1
      omega
  | cut item hitem => simp [walk, use?_bare hitem, leading_cut hitem, taking]
  | separate item value rest hitem ih =>
      simp only [walk, use?_bare hitem, decide_true, ih, leading_separate hitem, taking,
        List.append_assoc, List.cons_append, List.nil_append, List.length_cons]
      congr 1
      omega

theorem ofArguments_cons (program : SystemText) (rest : List SystemText) :
    ofArguments (program :: rest) =
      ⟨program :: (leading rest).1, 1 + (leading rest).1.length⟩ := by
  rw [ofArguments, walk_eq_leading, List.singleton_append]

theorem remaining_cons (program : SystemText) (rest : List SystemText) :
    (ofArguments (program :: rest)).remaining (program :: rest) =
      program :: (leading rest).2 := by
  have hparts := append_leading rest
  rw [ofArguments_cons, remaining, Nat.add_comm 1]
  generalize leading rest = parts at hparts
  rw [← hparts, List.drop_succ_cons, List.drop_left]
  rfl

-- The two parts of a command line that a run goes on with.
theorem tails_eq_leading (arguments : List SystemText) :
    (ofArguments arguments).flags.tail = (leading arguments.tail).1 ∧
      ((ofArguments arguments).remaining arguments).tail = (leading arguments.tail).2 := by
  cases arguments with
  | nil => exact ⟨rfl, rfl⟩
  | cons program rest =>
      rw [remaining_cons, ofArguments_cons]
      exact ⟨rfl, rfl⟩

-- The front of a command line is cut off behind the last of its settings, and nothing gets lost or
-- changes its place. The part that is cut off is the longest that is made of settings, so none
-- is left in front of the rest. A run goes on with these two parts.
theorem ofArguments_takes_settings :
    (ofArguments [] = ⟨[], 0⟩ ∧ (ofArguments []).remaining [] = []) ∧
    ∀ (program : SystemText) (rest : List SystemText),
      let arguments := program :: rest
      let split := ofArguments arguments
      let others := split.remaining arguments
      let front := (arguments.take split.start).tail
      1 ≤ split.start ∧ split.start ≤ arguments.length ∧
      split.flags = arguments.take split.start ∧
      others = program :: arguments.drop split.start ∧
      split.flags.tail ++ others.tail = rest ∧
      (Settings front ∨
        ∃ before item, front = before ++ [item] ∧ Settings before ∧ Bare item ∧
          split.start = arguments.length) ∧
      (∀ other, Settings other → other <+: rest → other.length ≤ front.length) ∧
      (∀ item, arguments[split.start]? = some item → ¬Bare item ∧ ¬Attached item) ∧
      ofArguments others = ⟨[program], 1⟩ ∧
      leading rest = (split.flags.tail, others.tail) := by
  refine ⟨⟨rfl, rfl⟩, fun program rest => ?_⟩
  intro arguments split others front
  have hsplit : split = _ := ofArguments_cons program rest
  have hothers : others = _ := remaining_cons program rest
  obtain ⟨taken, left, hleading⟩ : ∃ taken left, leading rest = (taken, left) := ⟨_, _, rfl⟩
  have hparts := append_leading rest
  have hsettings := settings_leading rest
  have hlongest : ∀ other, Settings other → other <+: rest → _ := fun other hother hstarts =>
    hother.length_le hstarts
  have hstops : ∀ item, (leading rest).2.head? = some item → _ := fun item => head?_leading rest
  rw [hleading] at hsplit hothers hparts hsettings hlongest hstops
  have hstart : split.start = taken.length + 1 := by rw [hsplit, Nat.add_comm]
  have hflags : split.flags = program :: taken := by rw [hsplit]
  have htake : arguments.take split.start = program :: taken := by
    rw [hstart, List.take_succ_cons, ← hparts, List.take_left]
  have hdrop : arguments.drop split.start = left := by
    rw [hstart, List.drop_succ_cons, ← hparts, List.drop_left]
  have hlength : arguments.length = taken.length + left.length + 1 := by
    rw [List.length_cons, ← hparts, List.length_append]
  have hfront : front = taken := congrArg List.tail htake
  refine ⟨by omega, by omega, by rw [hflags, htake], by rw [hothers, hdrop], ?_, ?_, ?_, ?_, ?_, ?_⟩
  · rw [hflags, hothers]
    exact hparts
  · rw [hfront]
    obtain h | ⟨before, item, hlast, h, hbare, hend⟩ := hsettings
    · exact .inl h
    · refine .inr ⟨before, item, hlast, h, hbare, ?_⟩
      simp only at hend
      rw [hlength, hstart, hend]
      rfl
  · rw [hfront]
    exact hlongest
  · intro item hitem
    rw [← List.head?_drop, hdrop] at hitem
    exact hstops item hitem
  · rw [hothers, ofArguments_cons, leading_of_head? hstops]
    rfl
  · rw [hflags, hothers]
    exact hleading

-- A value may look like a flag, and another need not be text. The flag behind the command is not
-- a setting.
theorem ofArguments_takes_settings_disguised :
    let odd : SystemText := .raw (encode "--log-format" ++ [0x3D, 0xFF])
    let settings : List SystemText := [.text "--numeric-domain", .text "--log-filter", odd]
    let rest : List SystemText := settings ++ [.text "describe", .text "--tape-length"]
    let split := ofArguments (.text "textdispatch" :: rest)
    Settings settings ∧ settings <+: rest ∧ settings.length ≤ split.flags.tail.length ∧
      split.start = 4 ∧ ¬Bare (.text "describe") ∧ ¬Attached (.text "describe") := by
  intro odd settings rest split
  obtain ⟨-, hsplit⟩ := ofArguments_takes_settings
  obtain ⟨-, -, hflags, -, -, -, hlongest, hstops, -⟩ := hsplit (.text "textdispatch") rest
  have hsettings : Settings settings :=
    .separate ⟨"--numeric-domain", by decide, rfl⟩
      (.attached ⟨"--log-format", by decide, [0xFF], rfl⟩ .nil)
  have hstarts : settings <+: rest := List.prefix_append _ _
  have hlong := hlongest settings hsettings hstarts
  rw [← hflags] at hlong
  have hstart : split.start = 4 := by decide +kernel
  exact ⟨hsettings, hstarts, hlong, hstart, hstops (.text "describe") (by rw [hstart]; rfl)⟩

end Split

end ConfigFlags

end Switchboard
