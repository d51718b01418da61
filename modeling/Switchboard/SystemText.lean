import Switchboard.Text.Utf8

namespace Switchboard

-- Text as a system hands it over. Most of it is text, and the bytes of the rest are not UTF-8.
inductive SystemText where
  | text (value : String)
  | raw (bytes : List UInt8)
deriving DecidableEq, Repr

namespace SystemText

def ofBytes (bytes : List UInt8) : SystemText :=
  match Text.Utf8.decode? bytes with
  | some value => .text (String.ofList value)
  | none => .raw bytes

def bytes : SystemText → List UInt8
  | .text value => Text.Utf8.encode value
  | .raw bytes => bytes

def text? : SystemText → Option String
  | .text value => some value
  | .raw _ => none

-- What can be shown of it.
def shown : SystemText → String
  | .text value => value
  | .raw bytes => String.ofList (Text.Utf8.decodeLossy bytes)

end SystemText

end Switchboard
