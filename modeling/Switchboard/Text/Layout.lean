namespace Switchboard.Text

def spaces (count : Nat) : String := String.ofList (List.replicate count ' ')

-- Text at the right end of a column.
def padLeft (width : Nat) (text : String) : String := spaces (width - text.length) ++ text

def byteCount (text : List Char) : Nat := (String.ofList text).utf8ByteSize

end Switchboard.Text
