import Switchboard.SystemText

namespace Switchboard

-- Why a file cannot be read.
inductive FileFault where
  | missing
  | notFolder
  | isFolder
  | nameTooLong
  | zeroByte
  | notText
  | other (reason : String)
deriving DecidableEq, Repr

namespace FileFault

def message : FileFault → String
  | .missing => "No such file or directory (os error 2)"
  | .notFolder => "Not a directory (os error 20)"
  | .isFolder => "Is a directory (os error 21)"
  | .nameTooLong => "File name too long (os error 36)"
  | .zeroByte => "file name contained an unexpected NUL byte"
  | .notText => "stream did not contain valid UTF-8"
  | .other reason => reason

end FileFault

-- A file that was found, under the one path that leads to it without detours.
structure FoundFile where
  path : SystemText
  bytes : List UInt8
deriving DecidableEq, Repr

namespace FoundFile

def text (file : FoundFile) : Except FileFault String :=
  match Text.Utf8.decode? file.bytes with
  | some value => .ok (String.ofList value)
  | none => .error .notText

end FoundFile

-- What stands at the end of a path: a file, or a folder with its one path.
inductive Found where
  | file (file : FoundFile)
  | folder (path : SystemText)
deriving DecidableEq, Repr

abbrev FileAnswer := Except FileFault Found

-- A computation that may ask what stands at the end of a path. Where the answers come from is
-- decided by whoever carries it out.
inductive Reading (α : Type) where
  | done (value : α)
  | ask (path : SystemText) (next : FileAnswer → Reading α)

namespace Reading

variable {α β : Type}

def bind : Reading α → (α → Reading β) → Reading β
  | .done value, f => f value
  | .ask path next, f => .ask path fun answer => (next answer).bind f

instance : Monad Reading where
  pure := .done
  bind := bind

def place (path : SystemText) : Reading FileAnswer := .ask path .done

-- A folder cannot be read as a file.
def file (path : SystemText) : Reading (Except FileFault FoundFile) := do
  match ← place path with
  | .ok (.file found) => return .ok found
  | .ok (.folder _) => return .error .isFolder
  | .error fault => return .error fault

-- Carries out a computation with files that never change.
def answered (files : SystemText → FileAnswer) : Reading α → α
  | .done value => value
  | .ask path next => (next (files path)).answered files

@[simp] theorem answered_pure (files : SystemText → FileAnswer) (value : α) :
    (pure value : Reading α).answered files = value := rfl

@[simp] theorem answered_bind (files : SystemText → FileAnswer) (first : Reading α)
    (next : α → Reading β) :
    (first >>= next).answered files = (next (first.answered files)).answered files := by
  induction first with
  | done value => rfl
  | ask path _ ih => exact ih (files path)

-- Carries out a computation with files that are looked up in steps of their own.
def performed {m : Type → Type} [Monad m] (look : SystemText → m FileAnswer) : Reading α → m α
  | .done value => pure value
  | .ask path next => do
      let answer ← look path
      (next answer).performed look

end Reading

end Switchboard
