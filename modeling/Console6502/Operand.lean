import Console6502.Cpu
import Console6502.Sequencer

namespace Console6502

inductive Mode
  | implicit
  | accumulator
  | immediate
  | zeroPage
  | zeroPageX
  | zeroPageY
  | relative
  | absolute
  | absoluteX
  | absoluteY
  | indirect
  | indirectX
  | indirectY
deriving DecidableEq, Repr

namespace Mode

def all : List Mode :=
  [implicit, accumulator, immediate, zeroPage, zeroPageX, zeroPageY, relative, absolute, absoluteX,
   absoluteY, indirect, indirectX, indirectY]

def name : Mode → String
  | implicit => "Implicit"
  | accumulator => "Accumulator"
  | immediate => "Immediate"
  | zeroPage => "ZeroPage"
  | zeroPageX => "ZeroPageX"
  | zeroPageY => "ZeroPageY"
  | relative => "Relative"
  | absolute => "Absolute"
  | absoluteX => "AbsoluteX"
  | absoluteY => "AbsoluteY"
  | indirect => "Indirect"
  | indirectX => "IndirectX"
  | indirectY => "IndirectY"

/-- The mode with a given name, spelled exactly. -/
def ofName? (name : String) : Option Mode := all.find? (·.name == name)

def operandBytes : Mode → Nat
  | implicit | accumulator => 0
  | immediate | zeroPage | zeroPageX | zeroPageY | relative | indirectX | indirectY => 1
  | absolute | absoluteX | absoluteY | indirect => 2

def isAddressed : Mode → Bool
  | implicit | accumulator | immediate => false
  | _ => true

/-- Modes whose operand is the address of a data byte, and not of code to go to. -/
def isData (mode : Mode) : Bool :=
  mode.isAddressed && mode != relative && mode != indirect

end Mode

inductive Operand
  | implied
  | immediate (value : Byte)
  | address (addr : Address)
deriving DecidableEq, Repr

namespace Operand

def address? : Operand → Option Address
  | address a => some a
  | _ => none

/-- How an operand is shown, with its number in base ten. -/
def text : Operand → String
  | implied => "Implied"
  | immediate value => s!"Immediate({value.toNat})"
  | address addr => s!"Address({addr.toNat})"

end Operand

/-- The address after `a` on the same page; the page's last address is followed by its first. -/
def Address.nextInPage (a : Address) : Address := Address.ofBytes (a.low + 1) a.high

def Address.zeroPage (cell : Byte) : Address := cell.toUInt16

namespace Sequencer

variable {M : Type} [Bus M]

/-- The word held by a cell of the zero page and the next cell of that page. -/
def zeroPageWord (s : Sequencer M) (cell : Byte) : Address × Sequencer M :=
  s.getPair (Address.zeroPage cell) (Address.zeroPage (cell + 1))

/-- Takes the operand bytes of a mode and makes the operand. Indexing within the zero page stays
there, and the pointer of an indirect jump is read from one page. -/
def operand (s : Sequencer M) (mode : Mode) (cpu : Cpu) : Operand × Sequencer M :=
  match mode with
  | .implicit | .accumulator => (.implied, s)
  | .immediate =>
    let (b, s) := s.next
    (.immediate b, s)
  | .zeroPage =>
    let (b, s) := s.next
    (.address (Address.zeroPage b), s)
  | .zeroPageX =>
    let (b, s) := s.next
    (.address (Address.zeroPage (b + cpu.x)), s)
  | .zeroPageY =>
    let (b, s) := s.next
    (.address (Address.zeroPage (b + cpu.y)), s)
  | .relative =>
    let (b, s) := s.next
    (.address (s.pc.displace b), s)
  | .absolute =>
    let (w, s) := s.nextWord
    (.address w, s)
  | .absoluteX =>
    let (w, s) := s.nextWord
    (.address (w + cpu.x.toUInt16), s)
  | .absoluteY =>
    let (w, s) := s.nextWord
    (.address (w + cpu.y.toUInt16), s)
  | .indirect =>
    let (p, s) := s.nextWord
    let (w, s) := s.getPair p p.nextInPage
    (.address w, s)
  | .indirectX =>
    let (b, s) := s.next
    let (w, s) := s.zeroPageWord (b + cpu.x)
    (.address w, s)
  | .indirectY =>
    let (b, s) := s.next
    let (w, s) := s.zeroPageWord b
    (.address (w + cpu.y.toUInt16), s)

end Sequencer

end Console6502
