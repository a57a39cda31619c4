namespace Console6502

abbrev Byte := UInt8

/-- A place in the 64 KB address space. All arithmetic on it wraps. -/
abbrev Address := UInt16

/-- The value of a byte in two's complement. -/
def Byte.signed (b : Byte) : Int :=
  if b < 128 then b.toNat else b.toNat - 256

namespace Address

def ofBytes (low high : Byte) : Address :=
  low.toUInt16 + high.toUInt16 * 256

/-- The byte stored first. -/
def low (a : Address) : Byte := a.toUInt8

/-- The byte stored second. -/
def high (a : Address) : Byte := (a / 256).toUInt8

/-- The address `offset` bytes away, reading `offset` as a signed byte. -/
def displace (a : Address) (offset : Byte) : Address :=
  UInt16.ofInt (a.toNat + offset.signed)

theorem toNat_ofBytes (low high : Byte) :
    (ofBytes low high).toNat = low.toNat + 256 * high.toNat := by
  have hl := low.toNat_lt
  have hh := high.toNat_lt
  simp only [ofBytes, UInt16.toNat_add, UInt16.toNat_mul, UInt8.toNat_toUInt16]
  simp only [UInt16.reduceToNat]
  omega

theorem toNat_low (a : Address) : a.low.toNat = a.toNat % 256 := by
  simp [low]

theorem toNat_high (a : Address) : a.high.toNat = a.toNat / 256 := by
  have h := a.toNat_lt
  simp only [high, UInt16.toNat_toUInt8, UInt16.toNat_div]
  simp only [UInt16.reduceToNat]
  omega

theorem ofBytes_low_high (a : Address) : ofBytes a.low a.high = a := by
  apply UInt16.toNat_inj.mp
  rw [toNat_ofBytes, toNat_low, toNat_high]
  omega

/-- Displacement adds the signed value of the byte, modulo the size of the address space. -/
theorem toNat_displace (a : Address) (offset : Byte) :
    ((a.displace offset).toNat : Int) = (a.toNat + offset.signed) % 65536 := by
  simp only [displace, UInt16.ofInt, UInt16.toNat_ofNat']
  omega

end Address

end Console6502
