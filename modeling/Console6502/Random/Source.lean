import Console6502.Random.Keystream
import Console6502.Word

namespace Console6502.Random

structure Source where
  stream : Nat → Byte
  drawn : Nat := 0

namespace Source

def next (s : Source) : Byte × Source :=
  (s.stream s.drawn, { s with drawn := s.drawn + 1 })

/-- The low byte of each word of the seed's keystream. -/
def ofSeed (seed : UInt64) : Source :=
  let key := Key.ofSeed seed
  { stream := fun n => (key.word n).toUInt8 }

end Source

end Console6502.Random
