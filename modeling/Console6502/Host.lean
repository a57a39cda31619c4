import Console6502.Word

namespace Console6502

/-- One report to the display: column, row and palette index. -/
structure Pixel where
  x : UInt16
  y : UInt16
  color : Byte
deriving DecidableEq, Repr

/-- The far side of the input register and the display window. -/
class Host (δ : Type) where
  lastInput : δ → Byte
  draw : δ → Pixel → δ

/-- The code that stands for no key at all. -/
def noInput : Byte := 0

end Console6502
