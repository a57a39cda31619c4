import Console6502.Host

namespace Console6502

/-- The cells lie row after row. -/
structure Frame where
  width : UInt16
  height : UInt16
  cells : Vector Byte (height.toNat * width.toNat)
  writes : Nat

namespace Frame

def blank (width height : UInt16) : Frame :=
  ⟨width, height, Vector.replicate _ 0, 0⟩

theorem cell_lt {width height x y : UInt16} (h : x < width ∧ y < height) :
    y.toNat * width.toNat + x.toNat < height.toNat * width.toNat := by
  have hx := UInt16.lt_iff_toNat_lt.mp h.1
  have hy := UInt16.lt_iff_toNat_lt.mp h.2
  have hm := Nat.mul_le_mul_right width.toNat (Nat.succ_le_of_lt hy)
  rw [Nat.succ_mul] at hm
  omega

/-- The palette index at a place inside the frame. -/
def pixel? (f : Frame) (x y : UInt16) : Option Byte :=
  if h : x < f.width ∧ y < f.height then
    have := cell_lt h
    some f.cells[y.toNat * f.width.toNat + x.toNat]
  else
    none

/-- Counts every pixel and keeps those inside the frame. -/
def draw (f : Frame) (p : Pixel) : Frame :=
  match f with
  | ⟨width, height, cells, writes⟩ =>
    if h : p.x < width ∧ p.y < height then
      ⟨width, height, cells.set (p.y.toNat * width.toNat + p.x.toNat) p.color (cell_lt h),
        writes + 1⟩
    else
      ⟨width, height, cells, writes + 1⟩

/-- One character for each palette index. -/
def palette : Vector Char 16 :=
  #v[' ', '#', '%', '&', '*', '+', '=', '-', ':', 'o', '@', 'O', 'X', '$', '~', '.']

/-- Indices beyond the palette start over. -/
def glyph (color : Byte) : Char :=
  have : color.toNat % 16 < 16 := Nat.mod_lt _ (by decide)
  palette[color.toNat % 16]

/-- Cuts a list into `count` pieces of the given width. -/
def rows (width : Nat) : (count : Nat) → List Byte → List (List Byte)
  | 0, _ => []
  | count + 1, cells => cells.take width :: rows width count (cells.drop width)

def line (row : List Byte) : List Char := row.map glyph ++ ['\n']

/-- The frame as text, a line for each row. A frame without columns has no lines either. -/
def render (f : Frame) : String :=
  if f.width = 0 then ""
  else String.ofList ((rows f.width.toNat f.height.toNat f.cells.toList).flatMap line)

end Frame

end Console6502
