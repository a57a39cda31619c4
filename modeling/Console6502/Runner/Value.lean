import Console6502.Text.Blank
import Console6502.Text.Quoted
import Console6502.Text.Unsigned

namespace Console6502.Runner

open Text

inductive ValueError
  /-- The text, without the white space around it, is no number of 32 bits. -/
  | malformed (text : List Char) (reason : NumberError)
  /-- The reason is all there is to say. -/
  | plain (reason : NumberError)
deriving DecidableEq, Repr

def ValueError.message : ValueError → String
  | malformed text reason => s!"invalid number {quoted text}: {reason.message}"
  | plain reason => reason.message

/-- The radix that a number is written in, and what is left behind the mark for it. -/
def radix : List Char → Nat × List Char
  | '0' :: 'x' :: digits => (16, digits)
  | '$' :: digits => (16, digits)
  | digits => (10, digits)

/-- Reads a number of 32 bits, in either base and with white space around it, and keeps it to a
limit. -/
def readCell (limit : Nat) (text : List Char) : Except ValueError Nat :=
  let text := trim text
  let (base, digits) := radix text
  match readUnsigned base 0xFFFFFFFF digits with
  | .error reason => .error (.malformed text reason)
  | .ok value => if limit < value then .error (.plain .tooLarge) else .ok value

def readAddress (text : List Char) : Except ValueError UInt16 :=
  (readCell 0xFFFF text).map UInt16.ofNat

def readByte (text : List Char) : Except ValueError UInt8 :=
  (readCell 0xFF text).map UInt8.ofNat

/-- Reads a number of 64 bits in base ten. -/
def readCount (text : List Char) : Except ValueError UInt64 :=
  match readUnsigned 10 0xFFFFFFFFFFFFFFFF text with
  | .error reason => .error (.plain reason)
  | .ok value => .ok (UInt64.ofNat value)

end Console6502.Runner
