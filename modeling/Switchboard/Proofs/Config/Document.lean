import Switchboard.Config.Document
import Switchboard.Proofs.Config.Fields
import Switchboard.Proofs.Json.Scalars

namespace Switchboard

open Json Scan

namespace Config

-- What a document has under the key of a setting.
def member (config : Config) : Setting → Json
  | .logFilter => .text config.logFilter
  | .logFormat => .text config.logFormat.name
  | .domain => .text config.domain.name
  | .tapeLength => .integer config.tapeLength.toNat

-- All values without their keys, in the order of the settings.
def values (config : Config) : List Json :=
  [.text config.logFilter, .text config.logFormat.name, .text config.domain.name,
    .integer config.tapeLength.toNat]

-- Some of the settings, and the standard ones in place of the others.
def keeping (config : Config) (kept : List Setting) : Config where
  logFilter := if .logFilter ∈ kept then config.logFilter else standard.logFilter
  logFormat := if .logFormat ∈ kept then config.logFormat else standard.logFormat
  domain := if .domain ∈ kept then config.domain else standard.domain
  tapeLength := if .tapeLength ∈ kept then config.tapeLength else standard.tapeLength

theorem keeping_congr (config : Config) {kept other : List Setting}
    (h : ∀ setting, setting ∈ kept ↔ setting ∈ other) :
    config.keeping kept = config.keeping other := by
  simp only [keeping, h]

theorem keeping_nil (config : Config) : config.keeping [] = standard := rfl

theorem keeping_all (config : Config) : config.keeping Choice.all = config := rfl

namespace Document

variable {config : Config} {gap rest : List Char} {given : List Setting}

theorem isGap_of_nil : ∀ c ∈ ([] : List Char), isGap c = true := nofun

theorem quote_append (text : String) (rest : List Char) :
    quote text ++ rest = '"' :: (text.toList.flatMap escapeChar ++ '"' :: rest) := by
  rw [quote, List.append_assoc, List.cons_append, List.singleton_append]

theorem quoted_quote (expected text : String) (hgap : ∀ c ∈ gap, isGap c = true) :
    quoted expected (gap ++ quote text ++ rest) = .ok (text, rest) := by
  rw [List.append_assoc, quoted, skipGaps_append hgap, quote_append, skipGaps_cons (by decide)]
  exact string_escaped text rest

theorem choice_quote {α : Type} [Choice α] {name : String} {value : α}
    (hname : Value.chosen name = .ok value) (hgap : ∀ c ∈ gap, isGap c = true) :
    choice (gap ++ quote name ++ rest) = .ok (value, rest) := by
  have hquoted : quoted "variant identifier" (quote name ++ rest) = .ok (name, rest) :=
    quoted_quote _ name isGap_of_nil
  rw [List.append_assoc, choice, skipGaps_append hgap]
  rw [quote_append] at hquoted ⊢
  rw [skipGaps_cons (by decide)]
  simp only [named, hquoted, bind, Except.bind, hname]
  rfl

theorem length_toDigits (length : UInt64) (hgap : ∀ c ∈ gap, isGap c = true)
    (hrest : EndsValue rest) :
    Document.length (gap ++ Nat.toDigits 10 length.toNat ++ rest) = .ok (length, rest) := by
  have hnumber : number false (Nat.toDigits 10 length.toNat ++ rest) =
      .ok (.integer length.toNat, rest) := number_toDigits length.toNat_lt hrest
  obtain ⟨c, digits, heq, hc⟩ := exists_digit length.toNat
  rw [List.append_assoc, Document.length, skipGaps_append hgap]
  rw [heq, List.cons_append] at hnumber ⊢
  rw [skipGaps_cons (starts_of_isDigit hc).gap, found]
  simp only [if_neg (ne_of_isDigit hc (d := 'n') rfl), if_neg (ne_of_isDigit hc (d := 't') rfl),
    if_neg (ne_of_isDigit hc (d := 'f') rfl), if_neg (ne_of_isDigit hc (d := '-') rfl),
    if_pos hc, numberValue, hnumber, bind, Except.bind, pure, Except.pure,
    Field.toLength_toNat, accept]

theorem chosen_formatName (format : LogFormat) : Value.chosen format.name = .ok format := by
  cases format <;> rfl

theorem chosen_domainName (domain : Domain) : Value.chosen domain.name = .ok domain := by
  cases domain <;> rfl

theorem give_member (setting : Setting) (hgap : ∀ c ∈ gap, isGap c = true)
    (hrest : EndsValue rest) :
    give (config.keeping given) (gap ++ (config.member setting).write ++ rest) setting =
      .ok (config.keeping (setting :: given), rest) := by
  cases setting with
  | logFilter =>
      rw [member, write, give, quoted_quote _ _ hgap]
      simp [keeping, bind, Except.bind, pure, Except.pure]
  | logFormat =>
      rw [member, write, give, choice_quote (chosen_formatName config.logFormat) hgap]
      simp [keeping, bind, Except.bind, pure, Except.pure]
  | domain =>
      rw [member, write, give, choice_quote (chosen_domainName config.domain) hgap]
      simp [keeping, bind, Except.bind, pure, Except.pure]
  | tapeLength =>
      have hwrite : (Json.integer config.tapeLength.toNat).write =
          Nat.toDigits 10 config.tapeLength.toNat := by
        rw [write, toList_toString_int, if_pos (Int.natCast_nonneg _), Int.toNat_natCast]
      rw [member, hwrite, give, length_toDigits _ hgap hrest]
      simp [keeping, bind, Except.bind, pure, Except.pure]

-- What may stand between two parts of a document.
structure Gap where
  text : List Char
  blank : ∀ c ∈ text, isGap c = true

namespace Gap

def nothing : Gap := ⟨[], nofun⟩

theorem endsValue (gap : Gap) (hrest : EndsValue rest) : EndsValue (gap.text ++ rest) := by
  obtain ⟨text, hblank⟩ := gap
  cases text with
  | nil => exact hrest
  | cons c text => exact .cons (.inl (hblank c List.mem_cons_self)) _

end Gap

-- A member of a document is a setting, or a single value under a key that no setting has.
inductive Part where
  | kept (setting : Setting)
  | foreign (key : String) (value : List Char) (hkey : key ∉ Choice.names Setting)
      (hvalue : Scalar value)

namespace Part

def setting? : Part → Option Setting
  | .kept setting => some setting
  | .foreign .. => none

def key : Part → String
  | .kept setting => setting.key
  | .foreign key .. => key

def value (config : Config) : Part → List Char
  | .kept setting => (config.member setting).write
  | .foreign _ value .. => value

end Part

structure Member where
  part : Part
  beforeKey : Gap
  beforeColon : Gap
  beforeValue : Gap
  behind : Gap

def Member.bare (setting : Setting) : Member :=
  ⟨.kept setting, .nothing, .nothing, .nothing, .nothing⟩

def Member.write (config : Config) (member : Member) : List Char :=
  member.beforeKey.text ++ quote member.part.key ++ member.beforeColon.text ++
    ':' :: (member.beforeValue.text ++ member.part.value config ++ member.behind.text)

def settingsOf (members : List Member) : List Setting :=
  members.filterMap fun member => member.part.setting?

-- An object with these members, around and between them what gaps there may be.
def objectText (config : Config) (front inside back : Gap) (members : List Member) : List Char :=
  front.text ++ '\x7b' :: (inside.text ++ [','].intercalate (members.map (Member.write config)) ++
    '\x7d' :: back.text)

theorem ofName?_key (setting : Setting) : Choice.ofName? setting.key = some setting := by
  cases setting <;> rfl

theorem ofName?_foreign {key : String} (hkey : key ∉ Choice.names Setting) :
    (Choice.ofName? key : Option Setting) = none := by
  rw [Choice.ofName?, List.find?_eq_none]
  intro setting hmem hname
  exact hkey (List.mem_map.mpr ⟨setting, hmem, beq_iff_eq.mp hname⟩)

-- The mark in front of a key.
def lead (isFirst : Bool) : List Char := if isFirst then [] else [',']

theorem nextKey?_lead (isFirst : Bool) {key : List Char} (hgap : ∀ c ∈ gap, isGap c = true)
    (before : Gap) :
    nextKey? isFirst (gap ++ lead isFirst ++ before.text ++ '"' :: key) =
      .ok (some ('"' :: key)) := by
  cases isFirst with
  | true =>
      rw [lead, if_pos rfl, List.append_nil, List.append_assoc, nextKey?, skipGaps_append hgap,
        skipGaps_append before.blank, skipGaps_cons (by decide)]
      rfl
  | false =>
      rw [lead, if_neg (by decide), nextKey?]
      simp only [List.append_assoc, skipGaps_append hgap, List.cons_append, List.nil_append,
        skipGaps_cons (c := ',') (by decide), skipGaps_append before.blank,
        skipGaps_cons (c := '"') (by decide)]
      rfl

theorem colon_append (before : Gap) (rest : List Char) :
    colon (before.text ++ ':' :: rest) = .ok rest := by
  rw [colon, skipGaps_append before.blank, skipGaps_cons (by decide)]
  rfl

-- A key that no other member has is read together with its value.
theorem byKey_member {fuel : Nat} (isFirst : Bool) {member : Member}
    (hgap : ∀ c ∈ gap, isGap c = true)
    (hnew : ∀ setting ∈ member.part.setting?, setting ∉ given) (hrest : EndsValue rest) :
    byKey (fuel + 1) given isFirst (config.keeping given)
        (gap ++ lead isFirst ++ member.write config ++ rest) =
      byKey fuel (member.part.setting?.toList ++ given) false
        (config.keeping (member.part.setting?.toList ++ given)) (member.behind.text ++ rest) := by
  obtain ⟨part, beforeKey, beforeColon, beforeValue, behind⟩ := member
  have hends := behind.endsValue hrest
  have hkey : ∀ key : List Char, nextKey? isFirst
      (gap ++ lead isFirst ++ beforeKey.text ++ '"' :: key) = .ok (some ('"' :: key)) :=
    fun _ => nextKey?_lead isFirst hgap beforeKey
  have htext : gap ++ lead isFirst ++ Member.write config
        ⟨part, beforeKey, beforeColon, beforeValue, behind⟩ ++ rest =
      gap ++ lead isFirst ++ beforeKey.text ++ (quote part.key ++ (beforeColon.text ++ ':' ::
        (beforeValue.text ++ part.value config ++ (behind.text ++ rest)))) := by
    simp only [Member.write, List.append_assoc, List.cons_append]
  rw [htext, quote_append, byKey, hkey]
  simp only [bind, Except.bind, List.drop_succ_cons, List.drop_zero, string_escaped,
    colon_append]
  cases part with
  | kept setting =>
      have hsetting := hnew setting rfl
      simp only [Part.key, ofName?_key, if_neg hsetting, Part.value,
        give_member setting beforeValue.blank hends]
      rfl
  | foreign key value hkey hvalue =>
      simp only [Part.key, ofName?_foreign hkey, Part.value,
        hvalue.skipValue_append beforeValue.blank hends]
      rfl

-- What follows a member: the members behind it, each with its comma, and the end of the object.
def following (config : Config) (members : List Member) (rest : List Char) : List Char :=
  (members.flatMap fun member => ',' :: member.write config) ++ '\x7d' :: rest

theorem following_cons (member : Member) (members : List Member) (rest : List Char) :
    following config (member :: members) rest =
      lead false ++ member.write config ++ following config members rest := by
  simp [following, lead]

theorem endsValue_following (members : List Member) (rest : List Char) :
    EndsValue (following config members rest) := by
  cases members with
  | nil => exact .cons (by decide) rest
  | cons member members => exact .cons (by decide) _

theorem settingsOf_cons (member : Member) (members : List Member) :
    settingsOf (member :: members) = member.part.setting?.toList ++ settingsOf members := by
  rw [settingsOf, List.filterMap_cons]
  cases member.part.setting? <;> rfl

-- Every member has its comma in front, and no setting is given twice.
theorem byKey_following {members : List Member} (hgap : ∀ c ∈ gap, isGap c = true)
    (hnodup : (settingsOf members ++ given).Nodup) {fuel : Nat} (hfuel : members.length < fuel) :
    byKey fuel given false (config.keeping given) (gap ++ following config members rest) =
      .ok (config.keeping (settingsOf members ++ given), rest) := by
  induction members generalizing gap given fuel with
  | nil =>
      obtain ⟨fuel, rfl⟩ := Nat.exists_eq_add_one.mpr hfuel
      have htext : skipGaps (gap ++ following config [] rest) = '\x7d' :: rest := by
        rw [skipGaps_append hgap]
        exact skipGaps_cons (by decide) rest
      rw [byKey, nextKey?, htext]
      rfl
  | cons member members ih =>
      obtain ⟨fuel, rfl⟩ := Nat.exists_eq_add_one.mpr (Nat.zero_lt_of_lt hfuel)
      rw [settingsOf_cons, List.append_assoc] at hnodup
      have hnew : ∀ setting ∈ member.part.setting?, setting ∉ given := fun setting hsetting hmem =>
        List.disjoint_of_nodup_append hnodup (Option.mem_toList.mpr hsetting)
          (List.mem_append_right _ hmem)
      have hmore := (List.perm_append_comm_assoc _ _ _).nodup_iff.mp hnodup
      rw [following_cons, ← List.append_assoc, ← List.append_assoc,
        byKey_member false hgap hnew (endsValue_following members rest),
        ih member.behind.blank hmore (by simpa using hfuel), settingsOf_cons]
      refine congrArg (fun settings => Except.ok (settings, rest)) (keeping_congr config ?_)
      simp only [List.mem_append]
      tauto

theorem intercalate_eq_following (member : Member) (members : List Member) (rest : List Char) :
    [','].intercalate ((member :: members).map (Member.write config)) ++ '\x7d' :: rest =
      member.write config ++ following config members rest := by
  induction members generalizing member with
  | nil => simp [following]
  | cons next members ih =>
      have hmore := ih next
      rw [List.map_cons] at hmore
      rw [List.map_cons, List.map_cons, List.intercalate_cons_cons, List.append_assoc, hmore,
        following_cons]
      simp [lead]

-- The settings of an object are those of its members.
theorem byKey_members {members : List Member} (inside : Gap)
    (hnodup : (settingsOf members).Nodup) {fuel : Nat} (hfuel : members.length < fuel) :
    byKey fuel [] true standard (inside.text ++
        ([','].intercalate (members.map (Member.write config)) ++ '\x7d' :: rest)) =
      .ok (config.keeping (settingsOf members), rest) := by
  obtain ⟨fuel, rfl⟩ := Nat.exists_eq_add_one.mpr (Nat.zero_lt_of_lt hfuel)
  rw [← keeping_nil config]
  cases members with
  | nil =>
      have htext : skipGaps (inside.text ++ '\x7d' :: rest) = '\x7d' :: rest := by
        rw [skipGaps_append inside.blank]
        exact skipGaps_cons (by decide) rest
      rw [List.map_nil, List.intercalate_nil, List.nil_append, byKey, nextKey?, htext]
      rfl
  | cons member members =>
      rw [settingsOf_cons] at hnodup ⊢
      have hmore : (settingsOf members ++ (member.part.setting?.toList ++ [])).Nodup := by
        rw [List.append_nil]
        exact List.perm_append_comm.nodup_iff.mp hnodup
      have hmember : byKey (fuel + 1) [] true (config.keeping [])
          (inside.text ++ lead true ++ member.write config ++ following config members rest) = _ :=
        byKey_member true inside.blank (fun _ _ => List.not_mem_nil)
          (endsValue_following members rest)
      rw [intercalate_eq_following]
      rw [lead, if_pos rfl, List.append_nil, List.append_assoc] at hmember
      rw [hmember, byKey_following member.behind.blank hmore (by simpa using hfuel)]
      refine congrArg (fun settings => Except.ok (settings, rest)) (keeping_congr config ?_)
      simp only [List.mem_append, List.append_nil]
      tauto

theorem length_le_text (config : Config) (members : List Member) :
    members.length ≤ ([','].intercalate (members.map (Member.write config))).length :=
  length_le_joined fun member _ => by simp [Member.write]

theorem whole_object (front inside back : Gap) {members : List Member}
    (hnodup : (settingsOf members).Nodup) :
    whole (objectText config front inside back members) =
      .ok (config.keeping (settingsOf members)) := by
  have hlength := length_le_text config members
  have hback : skipGaps back.text = [] := by
    simpa [skipGaps] using skipGaps_append back.blank []
  have hfuel : members.length <
      (inside.text ++ ([','].intercalate (members.map (Member.write config)) ++
        '\x7d' :: back.text)).length + 1 := by
    simp only [List.length_append]
    omega
  rw [objectText, whole, skipGaps_append front.blank, skipGaps_cons (by decide),
    List.append_assoc]
  simp only [byKey_members inside hnodup hfuel, bind, Except.bind, hback]
  rfl

-- The settings in their order

def remaining (config : Config) (settings : List Setting) (rest : List Char) : List Char :=
  (settings.flatMap fun setting => ',' :: (config.member setting).write) ++ ']' :: rest

theorem endsValue_remaining (settings : List Setting) (rest : List Char) :
    EndsValue (remaining config settings rest) := by
  cases settings with
  | nil => exact .cons (by decide) rest
  | cons setting settings => exact .cons (by decide) _

theorem inOrder_remaining (settings : List Setting) :
    inOrder settings false (config.keeping given) (remaining config settings rest) =
      .ok (config.keeping (settings.reverse ++ given), rest) := by
  induction settings generalizing given with
  | nil => rfl
  | cons setting settings ih =>
      have hgive : give (config.keeping given)
          ((config.member setting).write ++ remaining config settings rest) setting =
            .ok (config.keeping (setting :: given), remaining config settings rest) :=
        give_member setting isGap_of_nil (endsValue_remaining settings rest)
      obtain ⟨c, more, hwrite, hstarts⟩ := write_starts (config.member setting)
      have htext : remaining config (setting :: settings) rest =
          ',' :: ((config.member setting).write ++ remaining config settings rest) := by
        simp [remaining]
      rw [hwrite, List.cons_append] at hgive htext
      rw [htext, inOrder, skipGaps_cons (by decide)]
      simp only [skipGaps_cons hstarts.gap]
      rw [if_neg (by decide), if_neg (by decide), if_pos trivial]
      split
      · cases ‹c :: _ = []›
      · exact absurd (List.cons.inj ‹c :: _ = _›).1 hstarts.list
      · simp only [hgive, bind, Except.bind]
        rw [ih, List.reverse_cons, List.append_assoc, List.singleton_append]

theorem whole_list (config : Config) : whole (Json.array (values config)).write = .ok config := by
  have hwrite : (Json.array (values config)).write =
      '[' :: ((config.member .logFilter).write ++
        remaining config [.logFormat, .domain, .tapeLength] []) := by
    simp [values, write, writeItems, remaining, member]
  have hgive : give (config.keeping []) ((config.member .logFilter).write ++
      remaining config [.logFormat, .domain, .tapeLength] []) .logFilter =
        .ok (config.keeping [.logFilter], remaining config [.logFormat, .domain, .tapeLength] []) :=
    give_member .logFilter isGap_of_nil (endsValue_remaining _ [])
  obtain ⟨c, more, hfirst, hstarts⟩ := write_starts (config.member .logFilter)
  rw [hfirst, List.cons_append] at hwrite hgive
  rw [keeping_nil] at hgive
  rw [hwrite, whole, skipGaps_cons (by decide)]
  have hall : (Choice.all : List Setting) = [.logFilter, .logFormat, .domain, .tapeLength] := rfl
  simp only [hall]
  rw [inOrder, skipGaps_cons hstarts.gap]
  simp only [if_neg hstarts.list, if_true, hgive, bind, Except.bind, inOrder_remaining]
  rfl

theorem whole_toJson (config : Config) : whole config.toJson.write = .ok config := by
  have hjson : config.toJson =
      .object (Choice.all.map fun setting : Setting => (setting.key, config.member setting)) := rfl
  have hbare : writeMember ∘ (fun setting : Setting => (setting.key, config.member setting)) =
      Member.write config ∘ Member.bare := by
    funext setting
    simp [Member.bare, writeMember, Member.write, Gap.nothing, Part.key, Part.value]
  have hwrite : config.toJson.write =
      objectText config .nothing .nothing .nothing (Choice.all.map Member.bare) := by
    rw [hjson, write, writeMembers_eq, List.map_map, hbare, ← List.map_map]
    rfl
  have hsettings : settingsOf (Choice.all.map Member.bare) = Choice.all := rfl
  rw [hwrite, whole_object _ _ _ (by decide), hsettings, keeping_all]

theorem read_ofList {text : List Char} (h : whole text = .ok config) :
    read (String.ofList text) = .ok config := by
  rw [read, String.toList_ofList, h]
  rfl

-- A document of all settings is read as what it was made from, with its keys or without them. One
-- of some settings, in any order and among members that nobody knows, has the standard settings
-- for the others.
theorem read_fills (config : Config) :
    read config.toJson.compact = .ok config ∧
    read (Json.array config.values).compact = .ok config ∧
    ∀ front inside back members, (settingsOf members).Nodup →
      read (String.ofList (objectText config front inside back members)) =
        .ok (config.keeping (settingsOf members)) :=
  ⟨read_ofList (whole_toJson config), read_ofList (whole_list config),
    fun front inside back _ hnodup => read_ofList (whole_object front inside back hnodup)⟩

theorem read_fills_foreign :
    read "\x7b\"tape\":-1.5e3,\"tape_length\":7, \"numeric_domain\":\"i8\"\x7d" =
      .ok { standard with domain := .i8, tapeLength := 7 } := by
  let number : Part := .foreign "tape" ['-', '1', '.', '5', 'e', '3'] (by decide)
    (.number (.inr rfl) (.digits rfl (by decide) nofun : Whole ['1'])
      (.point (List.all_eq_true.mp rfl) : Fraction ['.', '5'])
      (.power (.inl rfl) List.mem_cons_self
        (List.all_eq_true.mp rfl : ∀ digit ∈ ['3'], Char.isDigit digit = true)))
  let space : Gap := ⟨[' '], List.all_eq_true.mp rfl⟩
  let members : List Member := [⟨number, .nothing, .nothing, .nothing, .nothing⟩,
    .bare .tapeLength, ⟨.kept .domain, space, .nothing, .nothing, .nothing⟩]
  have hsettings : settingsOf members = [.tapeLength, .domain] := rfl
  have htext : objectText ⟨"\"", .json, .i8, 7⟩ .nothing .nothing .nothing members =
      "\x7b\"tape\":-1.5e3,\"tape_length\":7, \"numeric_domain\":\"i8\"\x7d".toList := by
    decide +kernel
  have hread := (read_fills ⟨"\"", .json, .i8, 7⟩).2.2 .nothing .nothing .nothing members
    (by rw [hsettings]; decide)
  rw [htext, String.ofList_toList, hsettings] at hread
  exact hread

end Document

end Config

end Switchboard
