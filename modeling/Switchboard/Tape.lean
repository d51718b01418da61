namespace Switchboard

-- A strip of byte cells, and the one cell that is looked at. The strip has an end on both sides.
structure Tape where
  cells : ByteArray
  head : Nat
  head_lt : head < cells.size

namespace Tape

def pushZeros : Nat → ByteArray → ByteArray
  | 0, cells => cells
  | count + 1, cells => pushZeros count (cells.push 0)

private theorem size_pushZeros (count : Nat) (cells : ByteArray) :
    (pushZeros count cells).size = cells.size + count := by
  induction count generalizing cells with
  | zero => rfl
  | succ count ih => rw [pushZeros, ih, ByteArray.size_push]; omega

private theorem size_set (cells : ByteArray) (index : Nat) (value : UInt8)
    (h : index < cells.size) : (cells.set index value h).size = cells.size :=
  Array.size_set h

-- All cells are zero, and there is at least one.
def blank (length : Nat) : Tape where
  cells := pushZeros (max length 1) ByteArray.empty
  head := 0
  head_lt := by rw [size_pushZeros]; omega

def size (tape : Tape) : Nat := tape.cells.size

def current (tape : Tape) : UInt8 := tape.cells.get tape.head tape.head_lt

def write (tape : Tape) (value : UInt8) : Tape where
  cells := tape.cells.set tape.head value tape.head_lt
  head := tape.head
  head_lt := by rw [size_set]; exact tape.head_lt

def cell? (tape : Tape) (index : Nat) : Option UInt8 := tape.cells[index]?

-- One cell to the right, unless the last one is looked at.
def right? (tape : Tape) : Option Tape :=
  if h : tape.head + 1 < tape.cells.size then
    some { tape with head := tape.head + 1, head_lt := h }
  else none

-- One cell to the left, unless the first one is looked at.
def left? (tape : Tape) : Option Tape :=
  if tape.head = 0 then none
  else some { tape with
    head := tape.head - 1
    head_lt := Nat.lt_of_le_of_lt (Nat.sub_le _ _) tape.head_lt }

-- The same strip as it was when new.
def cleared (tape : Tape) : Tape := blank tape.size

end Tape

end Switchboard
