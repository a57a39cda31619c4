import Console6502.Operand
import Console6502.Text.Blank

namespace Console6502

inductive Mnemonic
  | adc
  | and
  | asl
  | bcc
  | bcs
  | beq
  | bit
  | bmi
  | bne
  | bpl
  | brk
  | clc
  | cmp
  | cpx
  | cpy
  | dec
  | dex
  | dey
  | eor
  | inc
  | inx
  | iny
  | jmp
  | jsr
  | lda
  | ldx
  | ldy
  | lsr
  | nop
  | ora
  | pha
  | pla
  | rol
  | ror
  | rts
  | sbc
  | sec
  | sta
  | stx
  | sty
  | tax
  | tay
  | tsx
  | txa
  | txs
  | tya
deriving DecidableEq, Repr

/-- What an instruction wants of its operand. -/
inductive Shape
  /-- Reads a byte, given or stored. -/
  | read
  /-- Writes a stored byte. -/
  | store
  /-- Reads a stored byte and writes it back. -/
  | modify
  /-- Works on the accumulator or on a stored byte. -/
  | shift
  /-- Goes to a place nearby, or not. -/
  | branch
  /-- Goes to a given place, or to one that is stored. -/
  | jump
  /-- Goes to a given place and will come back. -/
  | call
  /-- Reads a byte stored at a plain address. -/
  | test
  | none
deriving DecidableEq, Repr

/-- Whether a mode gives what is wanted. -/
def Shape.admits : Shape → Mode → Bool
  | read, mode => mode == .immediate || mode.isData
  | store, mode => mode.isData
  | modify, mode => mode.isData
  | shift, mode => mode == .accumulator || mode.isData
  | branch, mode => mode == .relative
  | jump, mode => mode == .absolute || mode == .indirect
  | call, mode => mode == .absolute
  | test, mode => mode == .zeroPage || mode == .absolute
  | none, mode => mode == .implicit

namespace Mnemonic

/-- In alphabetical order. -/
def all : List Mnemonic :=
  [adc, and, asl, bcc, bcs, beq, bit, bmi, bne, bpl, brk, clc, cmp, cpx, cpy, dec, dex, dey, eor,
   inc, inx, iny, jmp, jsr, lda, ldx, ldy, lsr, nop, ora, pha, pla, rol, ror, rts, sbc, sec, sta,
   stx, sty, tax, tay, tsx, txa, txs, tya]

def name : Mnemonic → String
  | adc => "ADC"
  | and => "AND"
  | asl => "ASL"
  | bcc => "BCC"
  | bcs => "BCS"
  | beq => "BEQ"
  | bit => "BIT"
  | bmi => "BMI"
  | bne => "BNE"
  | bpl => "BPL"
  | brk => "BRK"
  | clc => "CLC"
  | cmp => "CMP"
  | cpx => "CPX"
  | cpy => "CPY"
  | dec => "DEC"
  | dex => "DEX"
  | dey => "DEY"
  | eor => "EOR"
  | inc => "INC"
  | inx => "INX"
  | iny => "INY"
  | jmp => "JMP"
  | jsr => "JSR"
  | lda => "LDA"
  | ldx => "LDX"
  | ldy => "LDY"
  | lsr => "LSR"
  | nop => "NOP"
  | ora => "ORA"
  | pha => "PHA"
  | pla => "PLA"
  | rol => "ROL"
  | ror => "ROR"
  | rts => "RTS"
  | sbc => "SBC"
  | sec => "SEC"
  | sta => "STA"
  | stx => "STX"
  | sty => "STY"
  | tax => "TAX"
  | tay => "TAY"
  | tsx => "TSX"
  | txa => "TXA"
  | txs => "TXS"
  | tya => "TYA"

def shape : Mnemonic → Shape
  | adc | and | cmp | cpx | cpy | eor | lda | ldx | ldy | ora | sbc => .read
  | sta | stx | sty => .store
  | dec | inc => .modify
  | asl | lsr | rol | ror => .shift
  | bcc | bcs | beq | bmi | bne | bpl => .branch
  | jmp => .jump
  | jsr => .call
  | bit => .test
  | brk | clc | dex | dey | inx | iny | nop | pha | pla | rts | sec | tax | tay | tsx | txa | txs
  | tya => .none

def supports (m : Mnemonic) (mode : Mode) : Bool := m.shape.admits mode

def index (m : Mnemonic) : Nat := all.idxOf m

/-- Reads a name. White space around it and the case of ASCII letters do not matter. -/
def ofText? (text : List Char) : Option Mnemonic :=
  all.find? fun m => m.name.toList == (Text.trim text).map Char.toUpper

theorem mem_all (m : Mnemonic) : m ∈ all := by
  cases m <;> decide

end Mnemonic

end Console6502
