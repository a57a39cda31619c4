import Console6502.Proofs.Traffic

namespace Console6502

variable {M N : Type} [Bus M] [Bus N] {R : M → N → Prop} {plain : Address → Prop}

/-- Related buses answer alike at plain cells, and accesses keep them related. -/
structure Bus.Mirror (R : M → N → Prop) (plain : Address → Prop) : Prop where
  read : ∀ {b c}, R b c → ∀ {a}, plain a →
    (Bus.read b a).1 = (Bus.read c a).1 ∧ R (Bus.read b a).2 (Bus.read c a).2
  write : ∀ {b c}, R b c → ∀ a v, R (Bus.write b a v) (Bus.write c a v)

namespace Bus

theorem Mirror.readAll (mirror : Mirror R plain) (cells : List Address) {b : M} {c : N}
    (h : R b c) (quiet : ∀ a ∈ cells, plain a) :
    (Bus.readAll b cells).1 = (Bus.readAll c cells).1 ∧
      R (Bus.readAll b cells).2 (Bus.readAll c cells).2 := by
  induction cells generalizing b c with
  | nil => exact ⟨rfl, h⟩
  | cons a cells ih =>
    obtain ⟨answer, rest⟩ := mirror.read h (quiet a (.head cells))
    obtain ⟨answers, rest⟩ := ih rest fun a ha => quiet a (.tail _ ha)
    refine ⟨?_, rest⟩
    simp only [Bus.readAll, answer, answers]

theorem Mirror.writeAll (mirror : Mirror R plain) (writes : List (Address × Byte)) {b : M} {c : N}
    (h : R b c) : R (Bus.writeAll b writes) (Bus.writeAll c writes) := by
  induction writes generalizing b c with
  | nil => exact h
  | cons w writes ih => exact ih (mirror.write h w.1 w.2)

end Bus

namespace Machine

/-- Two machines that differ in their buses at most. -/
structure Paired (R : M → N → Prop) (m : Machine M) (n : Machine N) : Prop where
  cpu : m.core.cpu = n.core.cpu
  bus : R m.core.seq.bus n.core.seq.bus
  pc : m.core.seq.pc = n.core.seq.pc
  sp : m.core.seq.sp = n.core.seq.sp
  set : m.set = n.set
  halted : m.halted = n.halted
  steps : m.steps = n.steps

variable {m : Machine M} {n : Machine N}

theorem opcode_paired (mirror : Bus.Mirror R plain) (h : m.Paired R n)
    (start : plain m.core.seq.pc) :
    m.opcode = n.opcode ∧
      R (Bus.read m.core.seq.bus m.core.seq.pc).2 (Bus.read n.core.seq.bus n.core.seq.pc).2 := by
  rw [opcode, opcode, ← h.pc]
  exact mirror.read h.bus start

theorem intake_paired (mirror : Bus.Mirror R plain) (h : m.Paired R n)
    (start : plain m.core.seq.pc) {i : Instruction} (quiet : ∀ a ∈ m.cells i, plain a) :
    (m.intake i).operand = (n.intake i).operand ∧ (m.intake i).data = (n.intake i).data ∧
      R (m.intake i).bus (n.intake i).bus := by
  obtain ⟨⟨cpu, ⟨bus, pc, sp⟩⟩, set, halted, steps⟩ := m
  obtain ⟨⟨cpu', ⟨bus', pc', sp'⟩⟩, set', halted', steps'⟩ := n
  obtain ⟨hcpu, hbus, hpc, hsp, -, -, -⟩ := h
  dsimp only at hcpu hbus hpc hsp
  subst hcpu hpc hsp
  simp only [cells, intake, behind, List.mem_append] at quiet ⊢
  obtain ⟨-, related⟩ := mirror.read hbus start
  generalize (Bus.read bus pc).2 = bus, (Bus.read bus' pc).2 = bus' at quiet related ⊢
  obtain ⟨bytes, related⟩ := mirror.readAll _ related fun a ha => quiet a (.inl (.inl ha))
  rw [← bytes]
  obtain ⟨pointer, related⟩ := mirror.readAll _ related fun a ha => quiet a (.inl (.inr ha))
  rw [← pointer]
  obtain ⟨data, related⟩ := mirror.readAll _ related fun a ha => quiet a (.inr ha)
  exact ⟨rfl, data, related⟩

theorem outcome_paired (h : m.Paired R n) {i : Instruction}
    (operand : (m.intake i).operand = (n.intake i).operand)
    (data : (m.intake i).data = (n.intake i).data) : m.outcome i = n.outcome i := by
  have behind : m.behind i = n.behind i := by rw [Machine.behind, Machine.behind, h.pc]
  simp only [outcome, operand, data, behind, h.cpu, h.sp]

/-- Machines that differ in their buses at most take the same step, if it reads plain cells only. -/
theorem step_paired (mirror : Bus.Mirror R plain) (h : m.Paired R n)
    (quiet : ∀ a ∈ m.reads, plain a) :
    m.step.fault? = n.step.fault? ∧ m.step.records = n.step.records ∧
      m.step.machine.Paired R n.step.machine := by
  rw [reads_eq] at quiet
  have start : plain m.core.seq.pc := quiet _ (.head _)
  obtain ⟨opcode, bus⟩ := opcode_paired mirror h start
  have next : m.next? = n.next? := by rw [next?, next?, opcode, h.set]
  cases hi : m.next? with
  | none =>
    rw [step_of_none hi, step_of_none (next.symm.trans hi), opcode, h.pc]
    refine ⟨rfl, rfl, h.cpu, bus, ?_, h.sp, h.set, h.halted, h.steps⟩
    exact congrArg (· + 1) h.pc
  | some i =>
    rw [step_of_some hi, step_of_some (next.symm.trans hi)]
    rw [hi] at quiet
    obtain ⟨operand, data, bus⟩ := intake_paired mirror h start fun a ha => quiet a (.tail _ ha)
    have outcome : m.outcome i = n.outcome i := outcome_paired h operand data
    refine ⟨rfl, ?_, ?_⟩
    · simp only [records, opcode, operand, outcome, h.cpu, h.pc, h.sp, h.steps]
    · simp only [result, outcome, h.set, h.steps]
      exact ⟨rfl, mirror.writeAll _ bus, rfl, rfl, rfl, rfl, rfl⟩

omit [Bus N] in
def touch (n : Machine N) (f : N → N) : Machine N :=
  n.withSeq fun s => { s with bus := f s.bus }

/-- The machine after so many steps, when ahead of each step something is done to the bus. -/
def amid (n : Machine N) (acts : Nat → N → N) : Nat → Machine N
  | 0 => n.touch (acts 0)
  | k + 1 => (n.amid acts k).step.machine.touch (acts (k + 1))

theorem amid_nothing (n : Machine N) (k : Nat) : n.amid (fun _ bus => bus) k = n.after k := by
  induction k with
  | zero => rfl
  | succ k ih =>
    rw [amid, ih]
    rfl

/-- A run stays paired while it reads plain cells only, even if things that keep the buses related
are done to one of them. -/
theorem amid_paired (mirror : Bus.Mirror R plain) (h : m.Paired R n) {acts : Nat → N → N}
    (harmless : ∀ k {b c}, R b c → R b (acts k c)) (k : Nat)
    (quiet : ∀ j < k, ∀ a ∈ (m.after j).reads, plain a) :
    (m.after k).Paired R (n.amid acts k) := by
  induction k with
  | zero => exact ⟨h.cpu, harmless 0 h.bus, h.pc, h.sp, h.set, h.halted, h.steps⟩
  | succ k ih =>
    have before := ih fun j hj => quiet j (Nat.lt_succ_of_lt hj)
    obtain ⟨-, -, h⟩ := step_paired mirror before (quiet k (Nat.lt_succ_self k))
    exact ⟨h.cpu, harmless (k + 1) h.bus, h.pc, h.sp, h.set, h.halted, h.steps⟩

end Machine

end Console6502
