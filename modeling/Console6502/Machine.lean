import Console6502.Core
import Console6502.InstructionSet.Standard
import Console6502.Journal

namespace Console6502

structure Machine (M : Type) where
  core : Core M
  set : InstructionSet
  halted : Bool := false
  steps : Nat := 0

/-- Why an instruction could not be carried out. The address is that of its opcode. -/
inductive Fault
  | unknownOpcode (opcode : Byte) (pc : Address)
  | missingAddress (mnemonic : Mnemonic) (pc : Address)
deriving DecidableEq, Repr

def Fault.message : Fault → String
  | unknownOpcode opcode pc =>
    s!"unknown opcode 0x{Text.hexByte opcode} at 0x{Text.hexAddress pc}"
  | missingAddress mnemonic pc =>
    s!"{mnemonic.name} at 0x{Text.hexAddress pc} requires an address operand"

/-- What a step comes to: the machine after it, what was noted, and the fault if there was one. -/
structure Step (M : Type) where
  machine : Machine M
  records : List Record
  fault? : Option Fault

namespace Machine

variable {M : Type}

/-- A machine at rest, with cleared registers and both pointers where they start. -/
def new (bus : M) (set : InstructionSet) : Machine M := { core := { seq := { bus } }, set }

def withCpu (m : Machine M) (f : Cpu → Cpu) : Machine M :=
  match m with
  | ⟨core, set, halted, steps⟩ => ⟨core.withCpu f, set, halted, steps⟩

def withSeq (m : Machine M) (f : Sequencer M → Sequencer M) : Machine M :=
  match m with
  | ⟨⟨cpu, seq⟩, set, halted, steps⟩ => ⟨⟨cpu, f seq⟩, set, halted, steps⟩

variable [Bus M]

/-- Stores an image and goes to its start. -/
def load (m : Machine M) (image : List Byte) (origin : Address) : Machine M :=
  match m with
  | ⟨⟨cpu, seq⟩, set, _, steps⟩ => ⟨⟨cpu, (seq.load image origin).jump origin⟩, set, false, steps⟩

def loadRecord (image : List Byte) (origin : Address) : Record := .loaded image.length origin

/-- Looks at a cell without being a part of the program. -/
def peek (m : Machine M) (a : Address) : Byte × Machine M :=
  match m with
  | ⟨⟨cpu, seq⟩, set, halted, steps⟩ =>
    let (b, seq) := seq.peek a
    (b, ⟨⟨cpu, seq⟩, set, halted, steps⟩)

/-- Carries out one instruction, halted or not. An unknown opcode is passed by and changes nothing
else. -/
def step (m : Machine M) : Step M :=
  match m with
  | ⟨⟨cpu, seq⟩, set, halted, steps⟩ =>
    let pc := seq.pc
    let (opcode, seq) := seq.next
    match set.get? opcode with
    | none =>
      ⟨⟨⟨cpu, seq⟩, set, halted, steps⟩, [.unknownOpcode opcode pc],
        some (.unknownOpcode opcode pc)⟩
    | some i =>
      let (operand, seq) := seq.operand i.mode cpu
      let trace : Record := .executing ⟨pc, opcode, i.mnemonic, operand, cpu, seq.sp⟩
      match Core.execute ⟨cpu, seq⟩ operand i.mnemonic with
      | (.missingAddress, core) =>
        ⟨⟨core, set, halted, steps⟩, [trace], some (.missingAddress i.mnemonic pc)⟩
      | (.next, core) => ⟨⟨core, set, false, steps + 1⟩, [trace], none⟩
      | (.halt, core) =>
        ⟨⟨core, set, true, steps + 1⟩, [trace, .halted pc (steps + 1)], none⟩

/-- What a run comes to: the fault that ended it if one did, the machine after it, and what was
made of the records. -/
structure Run (M σ : Type) where
  fault? : Option Fault
  machine : Machine M
  notes : σ

variable {σ : Type}

/-- Steps at most `budget` times, up to a BRK or a fault. Each record is handed to `note`. -/
def runNoting (note : σ → Record → σ) : (budget : Nat) → Machine M → σ → Run M σ
  | 0, m, notes => ⟨none, m, notes⟩
  | budget + 1, m, notes =>
    match m.step with
    | ⟨m, records, some fault⟩ => ⟨some fault, m, records.foldl note notes⟩
    | ⟨m, records, none⟩ =>
      if m.halted then ⟨none, m, records.foldl note notes⟩
      else runNoting note budget m (records.foldl note notes)

/-- Steps up to a BRK or a fault; `none` when that takes more than `fuel` steps. -/
def runToEndNoting (note : σ → Record → σ) : (fuel : Nat) → Machine M → σ → Option (Run M σ)
  | 0, _, _ => none
  | fuel + 1, m, notes =>
    match m.step with
    | ⟨m, records, some fault⟩ => some ⟨some fault, m, records.foldl note notes⟩
    | ⟨m, records, none⟩ =>
      if m.halted then some ⟨none, m, records.foldl note notes⟩
      else runToEndNoting note fuel m (records.foldl note notes)

/-- The number of instructions carried out since the machine had taken `start` steps, or the fault
that ended the run. -/
def Run.result (r : Run M σ) (start : Nat) : Except Fault Nat :=
  match r.fault? with
  | some fault => .error fault
  | none => .ok (r.machine.steps - start)

/-- A run of at most `budget` steps that keeps no journal. -/
def runFor (m : Machine M) (budget : Nat) : Except Fault Nat × Machine M :=
  let start := m.steps
  let r := runNoting (fun _ _ => ()) budget m ()
  (r.result start, r.machine)

/-- A run up to a BRK or a fault that keeps no journal. -/
def run? (m : Machine M) (fuel : Nat) : Option (Except Fault Nat × Machine M) :=
  let start := m.steps
  (runToEndNoting (fun _ _ => ()) fuel m ()).map fun r => (r.result start, r.machine)

def journal (m : Machine M) (budget : Nat) : List Record :=
  (runNoting (fun notes r => notes.push r) budget m #[]).notes.toList

end Machine

end Console6502
