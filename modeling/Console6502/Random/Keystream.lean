namespace Console6502.Random

structure Row where
  a : UInt32
  b : UInt32
  c : UInt32
  d : UInt32
deriving DecidableEq, Repr

namespace Row

def add (r s : Row) : Row := ⟨r.a + s.a, r.b + s.b, r.c + s.c, r.d + s.d⟩

def xor (r s : Row) : Row := ⟨r.a ^^^ s.a, r.b ^^^ s.b, r.c ^^^ s.c, r.d ^^^ s.d⟩

def spin (count : UInt32) (w : UInt32) : UInt32 := (w <<< count) ||| (w >>> (32 - count))

def map (f : UInt32 → UInt32) (r : Row) : Row := ⟨f r.a, f r.b, f r.c, f r.d⟩

/-- Moves each word one place to the left, the first one to the end. -/
def turn (r : Row) : Row := ⟨r.b, r.c, r.d, r.a⟩

def toList (r : Row) : List UInt32 := [r.a, r.b, r.c, r.d]

end Row

/-- A state of the ChaCha cipher: sixteen words in four rows. -/
structure Block where
  first : Row
  second : Row
  third : Row
  fourth : Row
deriving DecidableEq, Repr

namespace Block

def columnRound (s : Block) : Block :=
  let a := s.first.add s.second
  let d := (s.fourth.xor a).map (Row.spin 16)
  let c := s.third.add d
  let b := (s.second.xor c).map (Row.spin 12)
  let a := a.add b
  let d := (d.xor a).map (Row.spin 8)
  let c := c.add d
  let b := (b.xor c).map (Row.spin 7)
  ⟨a, b, c, d⟩

/-- Mixes each diagonal: lines the diagonals up as columns, mixes those, and moves them back. -/
def diagonalRound (s : Block) : Block :=
  let t := columnRound ⟨s.first, s.second.turn, s.third.turn.turn, s.fourth.turn.turn.turn⟩
  ⟨t.first, t.second.turn.turn.turn, t.third.turn.turn, t.fourth.turn⟩

def doubleRounds : Nat → Block → Block
  | 0, s => s
  | n + 1, s => doubleRounds n s.columnRound.diagonalRound

def add (s t : Block) : Block :=
  ⟨s.first.add t.first, s.second.add t.second, s.third.add t.third, s.fourth.add t.fourth⟩

def toList (s : Block) : List UInt32 :=
  s.first.toList ++ s.second.toList ++ s.third.toList ++ s.fourth.toList

end Block

structure Key where
  low : Row
  high : Row
deriving DecidableEq, Repr

namespace Key

/-- One step of the congruential generator that stretches a seed. -/
def stretch (s : UInt64) : UInt64 := s * 6364136223846793005 + 11634580027462260723

/-- The word drawn from one state of that generator: its high bits folded together and rotated by
the very highest ones. -/
def draw (s : UInt64) : UInt32 :=
  let x := (((s >>> 18) ^^^ s) >>> 27).toUInt32
  let count := (s >>> 59).toUInt32
  (x >>> count) ||| (x <<< ((32 - count) % 32))

def ofSeed (seed : UInt64) : Key :=
  let s1 := stretch seed
  let s2 := stretch s1
  let s3 := stretch s2
  let s4 := stretch s3
  let s5 := stretch s4
  let s6 := stretch s5
  let s7 := stretch s6
  let s8 := stretch s7
  ⟨⟨draw s1, draw s2, draw s3, draw s4⟩, ⟨draw s5, draw s6, draw s7, draw s8⟩⟩

/-- The cipher's state before the rounds of block number `counter`. -/
def start (key : Key) (counter : UInt64) : Block :=
  ⟨⟨0x61707865, 0x3320646e, 0x79622d32, 0x6b206574⟩, key.low, key.high,
   ⟨counter.toUInt32, (counter >>> 32).toUInt32, 0, 0⟩⟩

/-- Twelve rounds, two at a time, and then the state from before them added on. -/
def block (key : Key) (counter : UInt64) : Block :=
  let s := key.start counter
  (s.doubleRounds 6).add s

def word (key : Key) (n : Nat) : UInt32 :=
  (key.block (UInt64.ofNat (n / 16))).toList.getD (n % 16) 0

end Key

end Console6502.Random
