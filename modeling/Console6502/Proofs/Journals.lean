import Console6502.Proofs.Arithmetic
import Console6502.Proofs.Digits
import Console6502.Proofs.Stranded

namespace Console6502

open Text (Hexadecimal hexadecimal_address hexadecimal_byte)

/-- How an operand is shown. -/
inductive Operand.Shown : Operand → String → Prop
  | implied : Shown .implied "Implied"
  | immediate (value : Byte) : Shown (.immediate value) s!"Immediate({value.toNat})"
  | address (addr : Address) : Shown (.address addr) s!"Address({addr.toNat})"

/-- The level and the text of the records of a run. The flags are one byte: negative in bit 7, zero
in bit 1, carry in bit 0, and bit 5 always set. -/
inductive Record.Noted : Record → Level → String → Prop
  | executing {t : Trace} {pc opcode operand a x y sp status : String}
      (pc_digits : Hexadecimal 4 t.pc.toNat pc) (opcode_digits : Hexadecimal 2 t.opcode.toNat opcode)
      (shown : t.operand.Shown operand) (a_digits : Hexadecimal 2 t.cpu.a.toNat a)
      (x_digits : Hexadecimal 2 t.cpu.x.toNat x) (y_digits : Hexadecimal 2 t.cpu.y.toNat y)
      (sp_digits : Hexadecimal 2 t.sp.toNat sp)
      (status_digits : Hexadecimal 2
        (32 + 128 * t.cpu.negative.toNat + 2 * t.cpu.zero.toNat + t.cpu.carry.toNat) status) :
      Noted (.executing t) .trace
        s!"{pc}  {opcode}  {t.mnemonic.name} {operand}  A:{a} X:{x} Y:{y} SP:{sp} P:{status}"
  | halted {pc : Address} {steps : Nat} {place : String}
      (digits : Hexadecimal 4 pc.toNat place) :
      Noted (.halted pc steps) .debug s!"halted at 0x{place} after {steps} steps"
  | unknownOpcode {opcode : Byte} {pc : Address} {byte place : String}
      (byte_digits : Hexadecimal 2 opcode.toNat byte) (digits : Hexadecimal 4 pc.toNat place) :
      Noted (.unknownOpcode opcode pc) .warn s!"unknown opcode 0x{byte} at 0x{place}"

theorem Operand.shown_text (operand : Operand) : operand.Shown operand.text := by
  cases operand with
  | implied => exact .implied
  | immediate value => exact .immediate value
  | address addr => exact .address addr

theorem Trace.text_line (pc opcode name operand a x y sp status : String) :
    (let code := s!"{pc}  {opcode}  {name} {operand}"
      let registers := s!"A:{a} X:{x} Y:{y}"
      s!"{code}  {registers} SP:{sp} P:{status}") =
      s!"{pc}  {opcode}  {name} {operand}  A:{a} X:{x} Y:{y} SP:{sp} P:{status}" := by
  apply String.toList_inj.mp
  simp [toString]

namespace Record

theorem noted_executing (t : Trace) :
    (executing t).Noted (executing t).level (executing t).text := by
  have status := hexadecimal_byte.mpr (rfl : Text.hexByte t.cpu.status = _)
  rw [Cpu.toNat_status] at status
  have line : (executing t).text = _ := Trace.text_line _ _ _ _ _ _ _ _ _
  rw [line]
  exact .executing (hexadecimal_address.mpr rfl) (hexadecimal_byte.mpr rfl)
    t.operand.shown_text (hexadecimal_byte.mpr rfl) (hexadecimal_byte.mpr rfl)
    (hexadecimal_byte.mpr rfl) (hexadecimal_byte.mpr rfl) status

theorem noted_halted (pc : Address) (steps : Nat) :
    (halted pc steps).Noted (halted pc steps).level (halted pc steps).text :=
  .halted (hexadecimal_address.mpr rfl)

theorem noted_unknownOpcode (opcode : Byte) (pc : Address) :
    (unknownOpcode opcode pc).Noted (unknownOpcode opcode pc).level
      (unknownOpcode opcode pc).text :=
  .unknownOpcode (hexadecimal_byte.mpr rfl) (hexadecimal_address.mpr rfl)

theorem noted_of_mem {traces : List Trace} {closing : List Record}
    (noted : ∀ r ∈ closing, r.Noted r.level r.text) :
    ∀ r ∈ traces.map executing ++ closing, r.Noted r.level r.text := by
  intro r hr
  rcases List.mem_append.mp hr with front | back
  · obtain ⟨t, -, rfl⟩ := List.mem_map.mp front
    exact noted_executing t
  · exact noted r back

end Record

namespace Machine

variable {M : Type} [Bus M]

/-- A note of the instruction that a machine is about to carry out. Its operand is known; registers,
flags and stack pointer are those from before it. -/
structure Announces (m : Machine M) (t : Trace) : Prop where
  pc : t.pc = m.core.seq.pc
  opcode : t.opcode = (Bus.read m.core.seq.bus m.core.seq.pc).1
  known : ∃ mode, m.set.get? t.opcode = some ⟨t.mnemonic, mode⟩ ∧
    t.operand = (m.core.seq.next.2.operand mode m.core.cpu).1
  cpu : t.cpu = m.core.cpu
  status : t.cpu.status.toNat =
    32 + 128 * m.core.cpu.negative.toNat + 2 * m.core.cpu.zero.toNat + m.core.cpu.carry.toNat
  sp : t.sp = m.core.seq.sp

/-- Notes of the first steps, in their order. -/
def Recounts (m : Machine M) (traces : List Trace) : Prop :=
  ∀ i t, traces[i]? = some t → (m.after i).Announces t

theorem Recounts.nil (m : Machine M) : m.Recounts [] := by
  simp [Recounts]

theorem Recounts.concat {m : Machine M} {traces : List Trace} {t : Trace} (h : m.Recounts traces)
    (next : (m.after traces.length).Announces t) : m.Recounts (traces ++ [t]) := by
  intro i u found
  rcases Nat.lt_trichotomy i traces.length with inside | rfl | beyond
  · rw [List.getElem?_append_left inside] at found
    exact h i u found
  · rw [List.getElem?_concat_length] at found
    cases found
    exact next
  · have outside : (traces ++ [t]).length ≤ i := by simpa using Nat.succ_le_of_lt beyond
    rw [List.getElem?_eq_none outside] at found
    cases found

/-- A step that does not fail notes its instruction and then, if that was a BRK, that it halted the
machine. -/
theorem records_of_done {m : Machine M} (ok : m.step.fault? = none) :
    ∃ t, m.Announces t ∧ m.step.records = .executing t ::
      if m.step.machine.halted then [.halted t.pc m.step.machine.steps] else [] := by
  cases h : m.next? with
  | none => simp [step_of_none h] at ok
  | some i =>
    have operand : (m.intake i).operand = (m.core.seq.next.2.operand i.mode m.core.cpu).1 := by
      rw [Sequencer.operand_eq]
      rfl
    let t : Trace :=
      ⟨m.core.seq.pc, m.opcode, i.mnemonic, (m.intake i).operand, m.core.cpu, m.core.seq.sp⟩
    have known : m.set.get? t.opcode = some ⟨t.mnemonic, i.mode⟩ := h
    rw [step_of_some h]
    refine ⟨t, ⟨rfl, rfl, ⟨i.mode, known, operand⟩, rfl, m.core.cpu.toNat_status, rfl⟩, ?_⟩
    simp only [records, result]
    rfl

/-- A step that fails notes the opcode that it did not know, and nothing else. -/
theorem records_of_unknown {m : Machine M} {opcode : Byte} {pc : Address}
    (failed : m.step.fault? = some (.unknownOpcode opcode pc)) :
    m.step.records = [.unknownOpcode opcode pc] := by
  obtain ⟨rfl, rfl, unknown⟩ := step_unknown_iff.mp failed
  rw [step_of_none unknown]

/-- The records are kept in the order in which they are made. -/
theorem toList_foldl_push (records : List Record) :
    (records.foldl (fun notes r => notes.push r) #[]).toList = records := by
  rw [List.foldl_push_eq_append]
  simp

section

variable {m : Machine M} {k n : Nat}

theorem Smooth.log_eq (smooth : m.Smooth k) :
    ∃ traces, traces.length = k ∧ m.Recounts traces ∧ m.log k = traces.map .executing := by
  induction k with
  | zero => exact ⟨[], rfl, .nil m, rfl⟩
  | succ k ih =>
    obtain ⟨smooth, ok, going⟩ := smooth_succ.mp smooth
    obtain ⟨traces, rfl, recounts, noted⟩ := ih smooth
    obtain ⟨t, announced, records⟩ := records_of_done ok
    rw [going] at records
    refine ⟨traces ++ [t], List.length_append, recounts.concat announced, ?_⟩
    rw [log, noted, records, List.map_append]
    rfl

theorem Smooth.journal_eq (smooth : m.Smooth k) :
    ∃ traces, traces.length = k ∧ m.Recounts traces ∧ m.journal k = traces.map .executing := by
  rw [journal, (smooth.run _ #[]).1, toList_foldl_push]
  exact smooth.log_eq

theorem HaltsAt.journal_eq (halts : m.HaltsAt k) (hk : k < n) :
    ∃ traces last, traces.length = k ∧ m.Recounts (traces ++ [last]) ∧
      m.journal n =
        (traces ++ [last]).map .executing ++ [.halted last.pc (m.after (k + 1)).steps] := by
  obtain ⟨traces, rfl, recounts, noted⟩ := halts.smooth.log_eq
  obtain ⟨last, announced, records⟩ := records_of_done halts.ok
  rw [(step_done halts.ok).2.mpr halts.brk] at records
  refine ⟨traces, last, rfl, recounts.concat announced, ?_⟩
  rw [journal, (halts.smooth.run_stop _ halts.stops hk #[]).1, toList_foldl_push, log, noted, records]
  simp [after]

theorem FailsAt.journal_eq {opcode : Byte} {pc : Address}
    (fails : m.FailsAt k (.unknownOpcode opcode pc)) (hk : k < n) :
    ∃ traces, traces.length = k ∧ m.Recounts traces ∧
      m.journal n = traces.map .executing ++ [.unknownOpcode opcode pc] := by
  obtain ⟨traces, rfl, recounts, noted⟩ := fails.smooth.log_eq
  refine ⟨traces, rfl, recounts, ?_⟩
  rw [journal, (fails.smooth.run_stop _ fails.stops hk #[]).1, toList_foldl_push, log, noted,
    records_of_unknown fails.failed]

end

/-- Of the records of a run only the notes of instructions are for tracing. -/
theorem countP_trace (traces : List Trace) {closing : List Record}
    (quiet : ∀ r ∈ closing, r.level ≠ .trace) :
    (traces.map Record.executing ++ closing).countP (·.level = .trace) = traces.length := by
  have none : closing.countP (·.level = .trace) = 0 :=
    List.countP_eq_zero.mpr fun r hr => by simpa using quiet r hr
  have all : (traces.map Record.executing).countP (·.level = .trace) = traces.length := by
    rw [List.countP_map]
    exact List.countP_eq_length.mpr fun _ _ => rfl
  rw [List.countP_append, none, all, Nat.add_zero]

/-- The journal of a run has one note for each instruction that was carried out, in order, made of the
machine that was about to carry it out. Behind them stands that the machine was halted, if the run
ended with a BRK, or the opcode that it ended with because it did not know it, and nothing else. So
as many instructions are noted as are counted, also by a run that fails. -/
theorem journal_tells (m : Machine M) (n : Nat) :
    let (result, left) := m.runFor n
    ∃ (traces : List Trace) (closing : List Record),
      m.journal n = traces.map .executing ++ closing ∧
        (∀ i t, traces[i]? = some t → (m.after i).Announces t) ∧
        (∀ r ∈ m.journal n, r.Noted r.level r.text) ∧
        left.steps = m.steps + traces.length ∧
        (m.journal n).countP (·.level = .trace) = traces.length ∧
        (∀ k, result = .ok k → traces.length = k) ∧
        (∀ fault, result = .error fault →
          (m.after traces.length).step.fault? = some fault ∧
            ∃ opcode pc, fault = .unknownOpcode opcode pc) ∧
        (∀ pc steps, closing = [.halted pc steps] ↔
          (∃ k, result = .ok k ∧ m.EndsInBrk k) ∧
            traces.getLast?.map Trace.pc = some pc ∧ steps = left.steps) ∧
        (∀ opcode pc, closing = [.unknownOpcode opcode pc] ↔
          result = .error (.unknownOpcode opcode pc)) ∧
        (closing = [] ↔ ∃ k, result = .ok k ∧ ¬ m.EndsInBrk k) := by
  rcases m.ways n with smooth | ⟨k, hk, halts⟩ | ⟨k, hk, fault, fails⟩
  · obtain ⟨traces, rfl, recounts, journal⟩ := smooth.journal_eq
    rw [← List.append_nil (traces.map _)] at journal
    rw [smooth.runFor.1, journal]
    refine ⟨traces, [], rfl, recounts, Record.noted_of_mem (by simp), steps_after smooth.good,
      countP_trace traces (by simp), ?_⟩
    simp [smooth.not_endsInBrk]
  · obtain ⟨traces, last, rfl, recounts, journal⟩ := halts.journal_eq hk
    rw [(halts.runFor hk).1, journal]
    refine ⟨traces ++ [last], _, rfl, recounts,
      Record.noted_of_mem (List.forall_mem_singleton.mpr (Record.noted_halted _ _)), ?_,
      countP_trace _ (by simp [Record.level]), ?_⟩
    · rw [steps_after halts.good, List.length_append]
      rfl
    · simp [halts.endsInBrk, eq_comm]
  · obtain ⟨opcode, pc, rfl, stranded⟩ := fails.stranded
    obtain ⟨traces, rfl, recounts, journal⟩ := fails.journal_eq hk
    rw [(fails.runFor hk).1, journal]
    refine ⟨traces, _, rfl, recounts,
      Record.noted_of_mem (List.forall_mem_singleton.mpr (Record.noted_unknownOpcode _ _)),
      stranded.steps, countP_trace _ (by simp [Record.level]), ?_⟩
    simp [fails.failed]

end Machine

end Console6502
