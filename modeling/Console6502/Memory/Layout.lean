import Console6502.Host

namespace Console6502

/-- The display window has a cell for each pixel, row after row from `start`. -/
structure Layout where
  random : Address := 0x00FE
  input : Address := 0x00FF
  start : Address := 0x0200
  width : UInt16 := 32
  height : UInt16 := 32
  colors : Byte := 16
deriving DecidableEq, Repr

namespace Layout

def area (l : Layout) : UInt32 := l.width.toUInt32 * l.height.toUInt32

/-- The column and row shown by the cell at `a`. The window does not wrap around the end of
memory, so what would lie beyond is never shown. -/
def position? (l : Layout) (a : Address) : Option (UInt16 × UInt16) :=
  if a < l.start then none
  else
    let offset := (a - l.start).toUInt32
    if l.area ≤ offset ∨ l.width = 0 then none
    else
      let width := l.width.toUInt32
      some ((offset % width).toUInt16, (offset / width).toUInt16)

/-- The palette index that a byte stands for; an empty palette counts as one color. -/
def color (l : Layout) (b : Byte) : Byte := b % max l.colors 1

/-- The pixel that a write of `b` at `a` draws. -/
def pixel? (l : Layout) (a : Address) (b : Byte) : Option Pixel :=
  (l.position? a).map fun (x, y) => ⟨x, y, l.color b⟩

end Layout

end Console6502
