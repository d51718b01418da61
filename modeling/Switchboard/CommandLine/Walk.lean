import Switchboard.CommandLine.Help
import Switchboard.CommandLine.Refusal
import Switchboard.Text.Similarity

namespace Switchboard.CommandLine

-- Why reading ends before there is a command: its author asked for a text, or gave nothing at
-- all and is shown the help, or made a mistake.
inductive Stop where
  | answer (text : String)
  | overview (text : String)
  | refused (refusal : Refusal)
deriving DecidableEq, Repr

-- What the next item may continue.
inductive Expecting (D : Type) where
  | nothing
  | value (parameter : Parameter D)
  | more (parameter : Parameter D)

-- How far reading has come. Values are stored one parameter later than they are read, so that a
-- later mistake in how a command is written outweighs an earlier one in what is written.
structure Progress (D : Type) where
  draft : D
  used : List String
  pending : Option (Parameter D × List SystemText)
  expecting : Expecting D
  place : Nat
  separated : Bool

namespace Progress

variable {D : Type}

def start (draft : D) : Progress D := ⟨draft, [], none, .nothing, 0, false⟩

def use (progress : Progress D) (label : String) : Progress D :=
  if progress.used.contains label then progress
  else { progress with used := progress.used ++ [label] }

-- The parameter that is being given values also takes items with dashes.
def takesDashes (progress : Progress D) : Bool :=
  match progress.expecting with
  | .nothing => false
  | .value parameter => parameter.takesDashes
  | .more parameter => parameter.takesDashes

def isIdle (progress : Progress D) : Bool :=
  match progress.expecting with
  | .nothing => true
  | _ => false

end Progress

def storeAll {D : Type} (parameter : Parameter D) : List SystemText → D →
    Except ValueFault D
  | [], draft => .ok draft
  | value :: rest, draft => do storeAll parameter rest (← parameter.store value draft)

namespace Scope

variable {D : Type}

def plainRefusal (cause : Cause) : Refusal := ⟨cause, [], none⟩

def refusalWithUsage (scope : Scope D) (cause : Cause) (tips : List Tip) : Refusal :=
  ⟨cause, tips, some scope.usage⟩

private def valueRefusal (scope : Scope D) (parameter : Parameter D) : ValueFault → Refusal
  | .absent => plainRefusal (.valueRequired parameter.title parameter.choiceNames)
  | .notText => scope.refusalWithUsage .notText []
  | .notListed given =>
      let similar := Text.mostSimilarName? given parameter.choiceNames
      ⟨.noSuchChoice given parameter.title parameter.choiceNames,
        similar.toList.map fun name => .similar "value" [name], none⟩
  | .malformed given reason => plainRefusal (.malformedValue given parameter.title reason)

-- Stores the values of one parameter. A parameter whose value is refused still counts as used,
-- and one that is given again does not.
def give (scope : Scope D) (parameter : Parameter D) (values : List SystemText)
    (progress : Progress D) : Progress D × Option Refusal :=
  if values.isEmpty then (progress, some (scope.valueRefusal parameter .absent))
  else if !parameter.many && progress.used.contains parameter.label then
    ({ progress with used := progress.used.erase parameter.label },
      some (scope.refusalWithUsage (.repeated parameter.title) []))
  else
    match storeAll parameter values progress.draft with
    | .ok draft => ({ progress.use parameter.label with draft }, none)
    | .error fault => (progress.use parameter.label, some (scope.valueRefusal parameter fault))

def settle (scope : Scope D) (progress : Progress D) : Progress D × Option Refusal :=
  match progress.pending with
  | none => (progress, none)
  | some (parameter, values) => scope.give parameter values { progress with pending := none }

def orRefuse (result : Progress D × Option Refusal) : Except Stop (Progress D) :=
  match result with
  | (progress, none) => .ok progress
  | (_, some refusal) => .error (.refused refusal)

def settled (scope : Scope D) (progress : Progress D) : Except Stop (Progress D) :=
  orRefuse (scope.settle progress)

-- Before a worse mistake is reported, mistakes in earlier values are passed over.
private def usedSoFar (scope : Scope D) (progress : Progress D) : List String :=
  (scope.settle progress).1.used

-- Required parameters stand in every usage line anyway.
private def isOptional (scope : Scope D) (label : String) : Bool :=
  !scope.form.parameters.any fun parameter => parameter.label == label && parameter.required

private def noteFor (label : String) : List String → List String
  | used => if used.contains label then used else used ++ [label]

-- A known option that resembles the given one, or else one of the commands in the rest of the
-- line.
private def nearOption? (scope : Scope D) (name : String) (rest : List SystemText) :
    Option Tip × Option String :=
  match Text.mostSimilarName? name scope.form.longNames with
  | some long => (some (.similar "argument" ["--" ++ long]), some long)
  | none =>
      let found := scope.commands.filterMap fun form => do
        let long ← Text.mostSimilarName? name form.longNames
        let place ← rest.findIdx? fun item => item == .text form.name
        return (place, Tip.elsewhere form.name ("--" ++ long))
      let nearest := found.foldl (fun best entry =>
        match best with
        | none => some entry
        | some kept => if entry.1 < kept.1 then some entry else some kept) none
      (nearest.map (·.2), none)

private def labelOfLong (scope : Scope D) (long : String) : String :=
  match scope.form.longOption? long with
  | some parameter => parameter.label
  | none => "--" ++ long

private def unknownLong (scope : Scope D) (name : String) (rest : List SystemText)
    (progress : Progress D) : Stop :=
  let (tip, known) := scope.nearOption? name rest
  let used := scope.usedSoFar progress
  let used := match known with
    | some long => noteFor (scope.labelOfLong long) used
    | none => used
  let given := "--" ++ name
  let asValue := if tip.isNone && !scope.form.positionals.isEmpty then [Tip.asValue given] else []
  .refused ⟨.unknownArgument given, tip.toList ++ asValue,
    some (scope.usageWith used)⟩

private def unknownShort (scope : Scope D) (given : String) : Stop :=
  let tips := if scope.form.positionals.isEmpty then [] else [Tip.asValue given]
  .refused (scope.refusalWithUsage (.unknownArgument given) tips)

def openOption (scope : Scope D) (parameter : Parameter D) (attached : Option SystemText)
    (progress : Progress D) : Except Stop (Progress D) := do
  let progress ← scope.settled progress
  match attached with
  | some value =>
      let progress ← orRefuse (scope.give parameter [value] progress)
      return { progress with expecting := .nothing }
  | none =>
      return { progress with pending := some (parameter, []), expecting := .value parameter }

private def stopWith (scope : Scope D) (progress : Progress D) (text : String) :
    Except Stop (Progress D) := do
  let _ ← scope.settled progress
  throw (.answer text)

-- A parameter of the form's own that has its value makes all of them alternatives to the flag.
private def valueNotWanted (scope : Scope D) (flag : String) (value : SystemText)
    (progress : Progress D) : Stop :=
  let used := noteFor flag (progress.used.filter scope.isOptional)
  let anyOwn := scope.form.own.any fun parameter => progress.used.contains parameter.label
  .refused ⟨.valueNotWanted value.shown flag, [],
    some (if anyOwn then scope.usageOfAny used else scope.usageWith used)⟩

-- The parameter at the current place takes items with dashes that mean nothing else.
private def placeTakesDashes (scope : Scope D) (progress : Progress D) : Bool :=
  match scope.form.positionals[progress.place]? with
  | some parameter => parameter.takesDashes
  | none => false

-- A request for a text takes no value.
private def ask (scope : Scope D) (flag text : String) (attached : Option SystemText)
    (progress : Progress D) : Except Stop (Progress D) :=
  match attached with
  | some value => .error (scope.valueNotWanted flag value progress)
  | none => scope.stopWith progress text

-- The answer is `none` when the item is a value after all.
def readLong (scope : Scope D) (name : SystemText) (attached : Option SystemText)
    (rest : List SystemText) (progress : Progress D) : Except Stop (Option (Progress D)) := do
  if progress.takesDashes then return none
  match name.text? with
  | none => throw (scope.unknownLong name.shown rest progress)
  | some long =>
      match scope.form.longOption? long, scope.form.version with
      | some parameter, _ => return some (← scope.openOption parameter attached progress)
      | none, version =>
          if long = "help" then
            return some (← scope.ask "--help" (Help.page scope true) attached progress)
          if long = "version" then
            if let some text := version then
              return some (← scope.ask "--version" (text ++ "\n") attached progress)
          if scope.placeTakesDashes progress then return none
          throw (scope.unknownLong long rest progress)

-- What follows the letter of an option is its value, with or without an equals sign.
private def attachedTo (letters : List Char) (tail : List UInt8) : Option SystemText :=
  let ofRest (letters : List Char) : SystemText :=
    .ofBytes (Text.Utf8.encode (String.ofList letters) ++ tail)
  match letters with
  | '=' :: rest => some (ofRest rest)
  | [] => if tail.isEmpty then none else some (ofRest [])
  | letters => some (ofRest letters)

private def readShort (scope : Scope D) (letters : List Char) (tail : List UInt8)
    (progress : Progress D) : Except Stop (Option (Progress D)) := do
  if progress.takesDashes then return none
  if scope.placeTakesDashes progress &&
      (!tail.isEmpty || letters.any fun letter => !scope.form.knowsLetter letter) then
    return none
  match letters with
  | [] => throw (scope.unknownShort ("-" ++ String.ofList (Text.Utf8.decodeLossy tail)))
  | letter :: more =>
      match scope.form.shortOption? letter with
      | some parameter => return some (← scope.openOption parameter (attachedTo more tail) progress)
      | none =>
          if letter = 'h' then
            return some (← scope.stopWith progress (Help.page scope false))
          if letter = 'V' then
            if let some text := scope.form.version then
              return some (← scope.stopWith progress (text ++ "\n"))
          throw (scope.unknownShort ("-" ++ String.singleton letter))

def command? (scope : Scope D) (item : SystemText) : Option (Form D) :=
  scope.commands.find? fun form => item == .text form.name

-- A value that no parameter takes.
private def strayValue (scope : Scope D) (item : SystemText) (progress : Progress D) : Stop :=
  let given := item.shown
  let similar := Text.similarNames given (scope.commands.map (·.name))
  let refuse := fun cause tips => Stop.refused (scope.refusalWithUsage cause tips)
  if progress.separated && (scope.command? item).isSome then
    refuse (.unknownArgument given) [.withoutSeparator given]
  else if !similar.isEmpty then refuse (.unknownCommand given) [.similar "subcommand" similar]
  else if !scope.commands.isEmpty && scope.form.positionals.isEmpty then
    refuse (.unknownCommand given) []
  else refuse (.unknownArgument given) []

private def readPlaced (scope : Scope D) (item : SystemText) (progress : Progress D) :
    Except Stop (Progress D) := do
  match scope.form.positionals[progress.place]? with
  | none => throw (scope.strayValue item progress)
  | some parameter =>
      let (earlier, progress) ← match progress.pending with
        | none => pure ([], progress)
        | some (other, values) =>
            if parameter.many && other.label == parameter.label then pure (values, progress)
            else pure ([], ← scope.settled progress)
      let progress := { progress with pending := some (parameter, earlier ++ [item]) }
      if parameter.many then return { progress with expecting := .more parameter }
      else return { progress with expecting := .nothing, place := progress.place + 1 }

-- An item without a meaning of its own is the value of the option before it, or else that of the
-- next place.
def readValue (scope : Scope D) (item : SystemText) (progress : Progress D) :
    Except Stop (Progress D) :=
  match progress.expecting with
  | .value parameter =>
      .ok { progress with pending := some (parameter, [item]), expecting := .nothing }
  | _ => scope.readPlaced item progress

def readItem (scope : Scope D) (item : SystemText) (rest : List SystemText)
    (progress : Progress D) : Except Stop (Progress D) := do
  if progress.separated then scope.readPlaced item progress
  else
    match Spelling.ofItem item with
    | .separator =>
        if progress.takesDashes then scope.readValue item progress
        else return { progress with separated := true }
    | .long name attached =>
        match ← scope.readLong name attached rest progress with
        | some progress => return progress
        | none => scope.readValue item progress
    | .short letters tail =>
        match ← scope.readShort letters tail progress with
        | some progress => return progress
        | none => scope.readValue item progress
    | .plain => scope.readValue item progress

-- Reads up to the first item that names a command, or to the end.
def walk (scope : Scope D) : List SystemText → Progress D →
    Except Stop (Progress D × Option (Form D × List SystemText))
  | [], progress => .ok (progress, none)
  | item :: rest, progress => do
      if progress.isIdle && !progress.separated then
        if let some form := scope.command? item then return (progress, some (form, rest))
      walk scope rest (← scope.readItem item rest progress)

def clash? (scope : Scope D) (used : List String) :
    Option (Parameter D × Parameter D) :=
  let given := used.filterMap fun label =>
    scope.form.parameters.find? fun parameter => parameter.label == label
  given.findSome? fun first =>
    (given.find? fun second =>
      first.excludes.contains second.label || second.excludes.contains first.label).map
        fun second => (first, second)

-- Nothing excludes anything else, and nothing is missing.
def check (scope : Scope D) (progress : Progress D) : Except Stop D :=
  match scope.clash? progress.used with
  | some (first, second) =>
      let others := progress.used.filter fun label => label != second.label
      .error (.refused ⟨.conflict first.title second.title, [], some (scope.usageWith others)⟩)
  | none =>
      let missing := scope.form.parameters.filter fun parameter =>
        parameter.required && !progress.used.contains parameter.label
      if missing.isEmpty then .ok progress.draft
      else .error (.refused ⟨.parametersRequired (missing.map (·.title)), [],
        some (scope.usageWith (progress.used ++ missing.map (·.label)))⟩)

end Scope

-- A command, what was given to it, and what was given before it.
structure Chosen (D : Type) where
  command : String
  before : D
  own : D

-- A program is called by a name of its own, which need not be the one it was made with.
structure Program (D : Type) where
  form : Form D
  commands : List (Form D)

namespace Form

variable {D : Type}

-- Reads a command line without commands in it.
def read (form : Form D) (path : String) (blank : D) (items : List SystemText) : Except Stop D := do
  let scope : Scope D := ⟨form, [], path⟩
  let (progress, _) ← scope.walk items (.start blank)
  scope.check (← scope.settled progress)

end Form

namespace Program

variable {D : Type}

-- The mistakes of a command are reported before those of what stands in front of it.
def read (program : Program D) (called : Option String) (blank : D) (items : List SystemText) :
    Except Stop (Chosen D) := do
  let scope : Scope D := ⟨program.form, program.commands, called.getD program.form.name⟩
  match ← scope.walk items (.start blank) with
  | (progress, some (form, rest)) =>
      let path := match called with
        | some name => name ++ " " ++ form.name
        | none => form.name
      let own ← form.read path blank rest
      let before ← scope.check (← scope.settled progress)
      return ⟨form.name, before, own⟩
  | (progress, none) =>
      let progress ← scope.settled progress
      if progress.used.isEmpty then throw (.overview (Help.page scope false))
      throw (.refused (scope.refusalWithUsage
        (.commandRequired scope.path (program.commands.map (·.name))) []))

end Program

end Switchboard.CommandLine
