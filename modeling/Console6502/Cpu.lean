import Console6502.Word

namespace Console6502

inductive Register
  | a
  | x
  | y
deriving DecidableEq, Repr

inductive Flag
  | carry
  | zero
  | negative
deriving DecidableEq, Repr

structure Cpu where
  a : Byte := 0
  x : Byte := 0
  y : Byte := 0
  carry : Bool := false
  zero : Bool := false
  negative : Bool := false
deriving DecidableEq, Repr

namespace Cpu

def get (c : Cpu) : Register → Byte
  | .a => c.a
  | .x => c.x
  | .y => c.y

def flag (c : Cpu) : Flag → Bool
  | .carry => c.carry
  | .zero => c.zero
  | .negative => c.negative

def sign (b : Byte) : Bool := b &&& 0x80 != 0

/-- Sets the zero and negative flags for a result. -/
def follow (c : Cpu) (result : Byte) : Cpu :=
  { c with zero := result == 0, negative := sign result }

/-- Puts a byte into a register; the flags follow it. -/
def set (c : Cpu) (r : Register) (b : Byte) : Cpu :=
  match r with
  | .a => { c with a := b }.follow b
  | .x => { c with x := b }.follow b
  | .y => { c with y := b }.follow b

def setLow (c : Cpu) (r : Register) (w : Address) : Cpu := c.set r w.low

def carryIf (c : Cpu) (condition : Bool) : Cpu := { c with carry := condition }

def setCarry (c : Cpu) : Cpu := c.carryIf true

def clearCarry (c : Cpu) : Cpu := c.carryIf false

/-- Subtracts for the flags only. Carry means that nothing was borrowed. -/
def compare (c : Cpu) (r : Register) (b : Byte) : Cpu :=
  (c.carryIf (b ≤ c.get r)).follow (c.get r - b)

/-- Zero tells whether the accumulator and the byte have no bit in common; negative is bit 7 of the
byte alone. -/
def bitTest (c : Cpu) (b : Byte) : Cpu :=
  { c with zero := c.a &&& b == 0, negative := sign b }

/-- The flags in one byte: negative in bit 7, zero in bit 1, carry in bit 0, and bit 5 always set. -/
def status (c : Cpu) : Byte :=
  0x20 ||| (if c.negative then 0x80 else 0) ||| (if c.zero then 0x02 else 0) |||
    (if c.carry then 0x01 else 0)

end Cpu

end Console6502
