import Console6502.Proofs.Images
import Console6502.Proofs.Traffic
import Console6502.Proofs.Unbounded

namespace Console6502

/-- An opcode that a table knows, with operand bytes for its mode. Its instruction is followed by
the next one: it neither goes elsewhere nor halts the machine. -/
structure Line (set : InstructionSet) where
  opcode : Byte
  operands : List Byte
  instruction : Instruction
  known : set.get? opcode = some instruction
  complete : operands.length = instruction.mode.operandBytes
  sequential : instruction.mnemonic.isSequential = true
  goesOn : instruction.mnemonic ≠ .brk

namespace Line

variable {set : InstructionSet}

def bytes (l : Line set) : List Byte := l.opcode :: l.operands

def sizes (lines : List (Line set)) : Nat := lines.foldr (·.instruction.size + ·) 0

theorem length_bytes (l : Line set) : l.bytes.length = l.instruction.size := by
  rw [bytes, List.length_cons, l.complete, Instruction.size, Nat.add_comm]

theorem length_flatMap (lines : List (Line set)) : (lines.flatMap bytes).length = sizes lines := by
  induction lines with
  | nil => rfl
  | cons l lines ih => rw [List.flatMap_cons, List.length_append, length_bytes, ih, sizes, sizes,
      List.foldr_cons]

end Line

/-- Lines and the opcode of a BRK behind them, all of which fit into memory. -/
structure Listing (set : InstructionSet) where
  lines : List (Line set)
  stop : Byte
  stops : (set.get? stop).map Instruction.mnemonic = some .brk
  fits : Line.sizes lines < 65536

namespace Listing

variable {set : InstructionSet} (p : Listing set)

/-- The code from a line on. -/
def rest (k : Nat) : List Byte := (p.lines.drop k).flatMap Line.bytes ++ [p.stop]

def code : List Byte := p.rest 0

/-- How far a line is from the start of the code. -/
def offset (k : Nat) : Nat := Line.sizes (p.lines.take k)

variable {p} {k : Nat}

theorem rest_eq (hk : k < p.lines.length) : p.rest k = p.lines[k].bytes ++ p.rest (k + 1) := by
  rw [rest, List.drop_eq_getElem_cons hk, List.flatMap_cons, List.append_assoc, rest]

theorem rest_length : p.rest p.lines.length = [p.stop] := by
  rw [rest, List.drop_length]
  rfl

theorem offset_succ (hk : k < p.lines.length) :
    p.offset (k + 1) = p.offset k + p.lines[k].instruction.size := by
  rw [offset, offset, ← Line.length_flatMap, ← Line.length_flatMap, ← Line.length_bytes,
    List.take_succ_eq_append_getElem hk, List.flatMap_append, List.length_append]
  simp

theorem offset_add_rest : p.offset k + (p.rest k).length = p.code.length := by
  rw [offset, ← Line.length_flatMap, rest, code, rest, ← List.length_append, ← List.append_assoc,
    ← List.flatMap_append, List.take_append_drop]
  rfl

theorem length_code : p.code.length = p.offset p.lines.length + 1 := by
  rw [← p.offset_add_rest (k := p.lines.length), rest_length]
  rfl

/-- The cells of the code from a line on, when it is all loaded at an origin. -/
theorem drop_cells (origin : Address) :
    (origin.cells p.code.length).drop (p.offset k) =
      (origin + UInt16.ofNat (p.offset k)).cells (p.rest k).length := by
  rw [← offset_add_rest, Address.cells_add]
  exact List.drop_left' (Address.length_cells origin _)

end Listing

theorem Machine.opcode_of_contains {m : Machine Ram} {b : Byte} {bytes : List Byte}
    (h : m.core.seq.bus.Contains m.core.seq.pc (b :: bytes)) : m.opcode = b :=
  (Ram.contains_cons.mp h).1

/-- A machine that has come as far as a line, with the code from there on untouched. -/
structure Machine.InStep (m : Machine Ram) {set : InstructionSet} (p : Listing set)
    (origin : Address) (k : Nat) : Prop where
  set : m.set = set
  pc : m.core.seq.pc = origin + UInt16.ofNat (p.offset k)
  ahead : m.core.seq.bus.Contains m.core.seq.pc (p.rest k)

namespace Machine.InStep

variable {m : Machine Ram} {set : InstructionSet} {p : Listing set} {origin : Address} {k : Nat}

theorem load (m : Machine Ram) (p : Listing m.set) (origin : Address) :
    (m.load p.code origin).InStep p origin 0 where
  set := rfl
  pc := (UInt16.add_zero origin).symm
  ahead := by
    have length := p.length_code
    have size : p.offset p.lines.length = Line.sizes p.lines := by
      rw [Listing.offset, List.take_length]
    have fits := p.fits
    have bus : (m.load p.code origin).core.seq.bus =
        Bus.writeAll m.core.seq.bus (imageWrites p.code origin) :=
      congrArg Sequencer.bus (m.core.seq.load_eq p.code origin)
    rw [bus]
    exact Ram.contains_image m.core.seq.bus p.code origin (by omega)

/-- The next instruction and its operand bytes are those of the line. -/
theorem fetches (h : m.InStep p origin k) (hk : k < p.lines.length) :
    m.opcode = p.lines[k].opcode ∧ m.next? = some p.lines[k].instruction ∧
      (m.intake p.lines[k].instruction).bytes = p.lines[k].operands := by
  have ahead := h.ahead
  rw [Listing.rest_eq hk, Line.bytes, List.cons_append] at ahead
  have opcode := opcode_of_contains ahead
  obtain ⟨-, operands⟩ := Ram.contains_cons.mp ahead
  have taken : ((m.core.seq.pc + 1).cells p.lines[k].instruction.mode.operandBytes).map
      m.core.seq.bus.get = p.lines[k].operands := by
    rw [← p.lines[k].complete]
    exact operands.append.1
  refine ⟨opcode, ?_, ?_⟩
  · unfold next?
    rw [h.set, opcode, p.lines[k].known]
  · refine Eq.trans ?_ taken
    exact congrArg Prod.fst (m.core.seq.bus.readAll_eq _)

/-- A step carries out a line, and comes to the next one if it spares the code from there on. -/
theorem step (h : m.InStep p origin k) (hk : k < p.lines.length)
    (spared : ∀ a ∈ m.writes.map Prod.fst,
      a ∉ (origin.cells p.code.length).drop (p.offset (k + 1))) :
    m.step.machine.InStep p origin (k + 1) := by
  obtain ⟨-, next, -⟩ := h.fetches hk
  have pc : m.behind p.lines[k].instruction = origin + UInt16.ofNat (p.offset (k + 1)) := by
    rw [behind, h.pc, Listing.offset_succ hk, Instruction.size, UInt16.ofNat_add, UInt16.ofNat_add,
      UInt16.add_assoc, UInt16.add_assoc]
    rfl
  have sequential : (m.outcome p.lines[k].instruction).pc = m.behind p.lines[k].instruction :=
    Mnemonic.outcome_pc_of_sequential p.lines[k].sequential _ _ _ _ _
  have bus : (m.intake p.lines[k].instruction).bus = m.core.seq.bus := by
    rw [intake_bus, Ram.readAll_eq]
    rfl
  have ahead : m.core.seq.bus.Contains (m.behind p.lines[k].instruction) (p.rest (k + 1)) := by
    have code := h.ahead
    rw [Listing.rest_eq hk] at code
    have behind := code.append.2
    rwa [Line.length_bytes, h.pc, UInt16.add_assoc, ← UInt16.ofNat_add, ← Listing.offset_succ hk,
      ← pc] at behind
  rw [writes_eq next, Listing.drop_cells, ← pc] at spared
  rw [step_of_some next]
  refine ⟨h.set, sequential.trans pc, ?_⟩
  simp only [result, sequential, bus]
  exact ahead.writeAll spared

end Machine.InStep

namespace Listing

variable {m : Machine Ram} {p : Listing m.set} {origin : Address}

/-- No line stores to what is left of the code once the line itself is taken in. -/
def Spared (p : Listing m.set) (origin : Address) : Prop :=
  ∀ k < p.lines.length,
    ∀ a ∈ ((m.load p.code origin).after k).writes.map Prod.fst,
      a ∉ (origin.cells p.code.length).drop (p.offset (k + 1))

instance (p : Listing m.set) (origin : Address) : Decidable (p.Spared origin) :=
  @Nat.decidableBallLT _ _ fun _ _ => @List.decidableBAll _ _ (fun _ => instDecidableNot) _

theorem Spared.inStep (spared : p.Spared origin) {k : Nat} (hk : k ≤ p.lines.length) :
    ((m.load p.code origin).after k).InStep p origin k := by
  induction k with
  | zero => exact .load m p origin
  | succ k ih => exact (ih (Nat.le_of_succ_le hk)).step hk (spared k hk)

theorem Spared.haltsAt (spared : p.Spared origin) :
    (m.load p.code origin).HaltsAt p.lines.length := by
  have last := spared.inStep (Nat.le_refl _)
  have brk : ((m.load p.code origin).after p.lines.length).AtBrk := by
    have ahead := last.ahead
    rw [rest_length] at ahead
    unfold Machine.AtBrk Machine.next?
    rw [last.set, Machine.opcode_of_contains ahead, p.stops]
  refine ⟨?_, ?_, brk⟩
  · intro k hk
    obtain ⟨-, next, -⟩ := (spared.inStep (Nat.le_of_lt hk)).fetches hk
    unfold Machine.GoesOn
    rw [Machine.step_of_some next]
    refine ⟨rfl, ?_⟩
    simp only [Machine.result, Machine.outcome, Mnemonic.outcome_halts, decide_eq_false_iff_not]
    exact p.lines[k].goesOn
  · obtain ⟨i, next, -⟩ := Option.map_eq_some_iff.mp brk
    rw [Machine.step_of_some next]

end Listing

/-- Code that spares what is left of it is carried out as it is listed, whatever the machine held
before and wherever the code is loaded. The program counter goes from line to line by the sizes of
their instructions, each step carries out the instruction of its line on the operand bytes of that
line, and a run without a budget ends right behind the BRK. -/
theorem Listing.carried_out (m : Machine Ram) (p : Listing m.set) (origin : Address)
    (spared : p.Spared origin) :
    let start := m.load p.code origin
    (∀ k ≤ p.lines.length,
        (start.after k).core.seq.pc.toNat = (origin.toNat + p.offset k) % 65536) ∧
      (∀ (k : Nat) (hk : k < p.lines.length),
        let now := start.after k
        let i := p.lines[k].instruction
        now.opcode = p.lines[k].opcode ∧ now.next? = some i ∧
          (now.intake i).bytes = p.lines[k].operands ∧
          now.step = ⟨now.result i, now.records i, none⟩) ∧
      let left := start.after (p.lines.length + 1)
      start.Returns (.ok (p.lines.length + 1), left) ∧ left.halted = true ∧
        left.core.seq.pc.toNat = (origin.toNat + p.code.length) % 65536 := by
  intro start
  have halts := spared.haltsAt
  have pcs (k : Nat) (hk : k ≤ p.lines.length) :
      (start.after k).core.seq.pc.toNat = (origin.toNat + p.offset k) % 65536 := by
    rw [(spared.inStep hk).pc, Address.toNat_add_ofNat]
  refine ⟨pcs, ?_, ?_⟩
  · intro k hk now i
    obtain ⟨opcode, next, operands⟩ := (spared.inStep (Nat.le_of_lt hk)).fetches hk
    exact ⟨opcode, next, operands, Machine.step_of_some next⟩
  · intro left
    refine ⟨Machine.returns_ok_iff.mpr ⟨_, halts, rfl, rfl⟩, ?_, ?_⟩
    · exact (Machine.halted_after halts.good (Nat.succ_pos _)).mpr halts.endsInBrk
    · have behind : left.core.seq.pc = (start.after p.lines.length).core.seq.pc + 1 :=
        congrArg Sequencer.pc (Machine.seq_of_atBrk halts.brk)
      have last := pcs _ (Nat.le_refl p.lines.length)
      rw [behind, UInt16.toNat_add, last, length_code]
      simp only [UInt16.reduceToNat]
      omega

/-- Code over the end of memory, with a store over a line that is done and a push. -/
theorem Listing.carried_out_wrap :
    let m := Machine.new Ram.blank .standard
    let p : Listing m.set :=
      { lines :=
          [{ opcode := 0xA9, operands := [0x05], instruction := ⟨.lda, .immediate⟩,
             known := by decide +kernel, complete := rfl, sequential := rfl, goesOn := by decide },
           { opcode := 0x8D, operands := [0xFD, 0xFF], instruction := ⟨.sta, .absolute⟩,
             known := by decide +kernel, complete := rfl, sequential := rfl, goesOn := by decide },
           { opcode := 0x48, operands := [], instruction := ⟨.pha, .implicit⟩,
             known := by decide +kernel, complete := rfl, sequential := rfl, goesOn := by decide }]
        stop := 0x00
        stops := by decide +kernel
        fits := by decide }
    p.Spared 0xFFFC ∧ (m.load p.code 0xFFFC).Returns (.ok 4, (m.load p.code 0xFFFC).after 4) := by
  intro m p
  have spared : p.Spared 0xFFFC := by
    decide +kernel
  obtain ⟨-, -, returns, -⟩ := Listing.carried_out m p 0xFFFC spared
  exact ⟨spared, returns⟩

end Console6502
