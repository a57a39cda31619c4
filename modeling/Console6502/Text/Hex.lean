import Console6502.Word

namespace Console6502.Text

/-- Digits of base sixteen, capital letters above nine. -/
def hexDigit (n : Nat) : Char :=
  if n < 10 then Char.ofNat ('0'.toNat + n) else Char.ofNat ('A'.toNat + n - 10)

/-- The last `width` digits of a number, padded with zeros on the left. -/
def hexFixed : (width : Nat) → Nat → List Char
  | 0, _ => []
  | width + 1, n => hexFixed width (n / 16) ++ [hexDigit (n % 16)]

def hexByte (b : Byte) : String := String.ofList (hexFixed 2 b.toNat)

def hexAddress (a : Address) : String := String.ofList (hexFixed 4 a.toNat)

theorem hexFixed_length (width n : Nat) : (hexFixed width n).length = width := by
  induction width generalizing n with
  | zero => rfl
  | succ width ih => simp [hexFixed, ih]

end Console6502.Text
