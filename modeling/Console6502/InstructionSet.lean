import Console6502.Mnemonic
import Console6502.Text.Hex
import Console6502.Text.Quoted

namespace Console6502

structure Instruction where
  mnemonic : Mnemonic
  mode : Mode
deriving DecidableEq, Repr

def Instruction.size (i : Instruction) : Nat := 1 + i.mode.operandBytes

def Instruction.isSupported (i : Instruction) : Bool := i.mnemonic.supports i.mode

/-- An entry of a table to be built. -/
structure Definition where
  opcode : Byte
  mnemonic : Mnemonic
  mode : Mode
deriving DecidableEq, Repr

def Definition.instruction (d : Definition) : Instruction := ⟨d.mnemonic, d.mode⟩

inductive DefinitionError
  | duplicateOpcode (opcode : Byte) (existing : Mnemonic)
  | unsupportedMode (opcode : Byte) (mnemonic : Mnemonic) (mode : Mode)
  | unknownMnemonic (text : List Char)
deriving DecidableEq, Repr

def DefinitionError.message : DefinitionError → String
  | duplicateOpcode opcode existing =>
    s!"opcode 0x{Text.hexByte opcode} defined twice (already {existing.name})"
  | unsupportedMode opcode mnemonic mode =>
    s!"{mnemonic.name} does not support {mode.name} addressing (opcode 0x{Text.hexByte opcode})"
  | unknownMnemonic text => s!"unknown mnemonic {Text.quoted text}"

/-- Reads the name of a mnemonic; the error keeps the text as it came. -/
def Mnemonic.parse (text : List Char) : Except DefinitionError Mnemonic :=
  match ofText? text with
  | some m => .ok m
  | none => .error (.unknownMnemonic text)

structure InstructionSet where
  table : Vector (Option Instruction) 256
  supported : ∀ (n : Nat) (h : n < 256) (i : Instruction), table[n] = some i → i.isSupported

namespace InstructionSet

def empty : InstructionSet where
  table := Vector.replicate 256 none
  supported := by simp

def get? (set : InstructionSet) (opcode : Byte) : Option Instruction :=
  have := opcode.toNat_lt
  set.table[opcode.toNat]

def insert (set : InstructionSet) (opcode : Byte) (i : Instruction) (h : i.isSupported) :
    InstructionSet where
  table := set.table.set opcode.toNat (some i) opcode.toNat_lt
  supported n hn j hj := by
    rw [Vector.getElem_set] at hj
    split at hj
    · cases hj
      exact h
    · exact set.supported n hn j hj

/-- Enters supported definitions in order, the later ones over the earlier. -/
def insertAll (set : InstructionSet) :
    (ds : List Definition) → (∀ d ∈ ds, d.instruction.isSupported) → InstructionSet
  | [], _ => set
  | d :: ds, h =>
    (set.insert d.opcode d.instruction (h d (.head ds))).insertAll ds
      fun e he => h e (.tail d he)

/-- Enters a definition. An opcode that is taken is reported before a mode that does not fit. -/
def define (set : InstructionSet) (d : Definition) : Except DefinitionError InstructionSet :=
  match set.get? d.opcode with
  | some existing => .error (.duplicateOpcode d.opcode existing.mnemonic)
  | none =>
    if h : d.instruction.isSupported then .ok (set.insert d.opcode d.instruction h)
    else .error (.unsupportedMode d.opcode d.mnemonic d.mode)

/-- Enters definitions in order, up to the first that cannot be entered. -/
def defineAll (set : InstructionSet) : List Definition → Except DefinitionError InstructionSet
  | [] => .ok set
  | d :: ds =>
    match set.define d with
    | .ok set => set.defineAll ds
    | .error e => .error e

def ofDefinitions (ds : List Definition) : Except DefinitionError InstructionSet :=
  empty.defineAll ds

def toList (set : InstructionSet) : List Definition :=
  (List.range 256).filterMap fun n =>
    let opcode := UInt8.ofNat n
    (set.get? opcode).map fun i => ⟨opcode, i.mnemonic, i.mode⟩

def size (set : InstructionSet) : Nat := (set.table.toList.filter Option.isSome).length

def isEmpty (set : InstructionSet) : Bool := set.size == 0

theorem isSupported_of_get? {set : InstructionSet} {opcode : Byte} {i : Instruction}
    (h : set.get? opcode = some i) : i.isSupported :=
  set.supported opcode.toNat opcode.toNat_lt i h

theorem get?_empty (opcode : Byte) : empty.get? opcode = none := by
  simp [get?, empty]

theorem get?_insert (set : InstructionSet) (opcode other : Byte) (i : Instruction)
    (h : i.isSupported) :
    (set.insert opcode i h).get? other = if opcode = other then some i else set.get? other := by
  simp only [get?, insert, Vector.getElem_set, UInt8.toNat_inj]

end InstructionSet

end Console6502
