import Std.Time.DateTime
import Switchboard.Host

namespace Switchboard

-- A run as a process of its own, with the files, the variables and the clock of the system.
namespace Standalone

-- A file fails to open with the path that was asked for, and a folder fails to be read without one.
private def faultOf : IO.Error → FileFault
  | .noFileOrDirectory _ _ _ => .missing
  | .inappropriateType (some _) _ _ => .notFolder
  | .inappropriateType none _ _ => .isFolder
  | .invalidArgument _ _ "name too long" => .nameTooLong
  | other => .other (toString other)

private def contents (path : String) : IO (Except FileFault (List UInt8)) := do
  try
    return .ok (← IO.FS.readBinFile path).data.toList
  catch cause => return .error (faultOf cause)

def look (path : SystemText) : IO FileAnswer := do
  match path with
  | .raw _ => return .error .missing
  | .text path =>
      if path.toList.contains '\x00' then return .error .zeroByte
      let onePath := return SystemText.text (← IO.FS.realPath path).toString
      match ← contents path with
      | .ok bytes => return .ok (.file ⟨← onePath, bytes⟩)
      | .error .isFolder => return .ok (.folder (← onePath))
      | .error fault => return .error fault

private def variableOf (entry : List UInt8) : Option (String × String) := do
  let text ← (SystemText.ofBytes entry).text?
  match CommandLine.cutAt '=' text.toList with
  | (name, some value) => return (String.ofList name, String.ofList value)
  | (_, none) => none

-- The system shows all variables as a file whose entries end with a zero byte.
def environment : IO Environment := do
  try
    let bytes ← IO.FS.readBinFile "/proc/self/environ"
    return (bytes.data.toList.splitOn 0).filterMap variableOf
  catch _ => return []

private def padded (width : Nat) (value : Int) : String :=
  let digits := toString value
  String.ofList (List.replicate (width - digits.length) '0') ++ digits

def clockText : IO String := do
  let now := Std.Time.PlainDateTime.ofWallTime ((← Std.Time.Timestamp.now).toWallTime .zero)
  let date := "-".intercalate
    [padded 4 now.year, padded 2 now.month.toInt, padded 2 now.day.toInt]
  let time := ":".intercalate
    [padded 2 now.hour.toInt, padded 2 now.minute.toInt, padded 2 now.second.toInt]
  return date ++ "T" ++ time ++ "." ++ padded 6 (now.nanosecond.toInt / 1000) ++ "Z"

-- More steps than a process can live to take.
def fuel : Nat := Nat.pow 2 62

def outcome? (room : Option Nat) (arguments : List String) : IO (Option Outcome) := do
  let host : Host := ⟨fuel, room, true⟩
  let called := (← IO.appPath).toString
  let run := host.run ((called :: arguments).map .text) (← environment) Journal.nothing
  return (← run.performed look).1

private def tell (outcome : Outcome) : IO UInt32 := do
  (← IO.getStderr).putStr (outcome.stderrWith (← clockText))
  return if outcome.succeeded then 0 else 1

end Standalone

end Switchboard

open Switchboard in
-- An output that breaks is one without room.
def main (arguments : List String) : IO UInt32 := do
  let some outcome ← Standalone.outcome? none arguments | return 1
  try
    let stdout ← IO.getStdout
    stdout.write ⟨outcome.stdout.toArray⟩
    stdout.flush
    Standalone.tell outcome
  catch _ =>
    let some outcome ← Standalone.outcome? (some 0) arguments | return 1
    Standalone.tell outcome
