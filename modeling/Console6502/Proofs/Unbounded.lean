import Console6502.Proofs.Peeks

namespace Console6502

namespace Machine

section

variable {M : Type} [Bus M]

/-- A run without a budget comes to an end, with this result. -/
def Returns (m : Machine M) (r : Except Fault Nat × Machine M) : Prop := ∃ fuel, m.run? fuel = some r

def Diverges (m : Machine M) : Prop := ∀ fuel, m.run? fuel = none

variable {m left : Machine M} {k : Nat} {fault : Fault}

/-- More fuel does not change what a run has come to. -/
theorem run?_mono {fuel more : Nat} {r : Except Fault Nat × Machine M} (run : m.run? fuel = some r)
    (le : fuel ≤ more) : m.run? more = some r := by
  obtain ⟨result, left⟩ := r
  cases result with
  | ok k =>
    obtain ⟨j, hj, rest⟩ := run?_ok_iff.mp run
    exact run?_ok_iff.mpr ⟨j, Nat.lt_of_lt_of_le hj le, rest⟩
  | error fault =>
    obtain ⟨j, hj, rest⟩ := run?_error_iff.mp run
    exact run?_error_iff.mpr ⟨j, Nat.lt_of_lt_of_le hj le, rest⟩

theorem returns_ok_iff :
    m.Returns (.ok k, left) ↔ ∃ j, m.HaltsAt j ∧ k = j + 1 ∧ left = m.after (j + 1) := by
  simp only [Returns, run?_ok_iff]
  constructor
  · rintro ⟨fuel, j, -, rest⟩
    exact ⟨j, rest⟩
  · rintro ⟨j, rest⟩
    exact ⟨j + 1, j, Nat.lt_succ_self j, rest⟩

theorem diverges_iff : m.Diverges ↔ ∀ n, m.Smooth n := by
  simp only [Diverges, Option.eq_none_iff_forall_ne_some, ne_eq, run?_eq_some_iff]
  constructor
  · intro never n
    exact Classical.byContradiction fun rough => never n _ ⟨rfl, rough⟩
  · rintro smooth fuel r ⟨-, rough⟩
    exact rough (smooth fuel)

/-- A count comes of a run that some budget lets end in a BRK. -/
theorem returns_ok_iff_runFor :
    m.Returns (.ok k, left) ↔ ∃ n, 1 ≤ n ∧ m.runFor n = (.ok k, left) ∧ m.EndsInBrk k := by
  rw [returns_ok_iff]
  constructor
  · rintro ⟨j, halts, rfl, rfl⟩
    exact ⟨j + 1, Nat.le_add_left 1 j, (halts.runFor (Nat.lt_succ_self j)).1, halts.endsInBrk⟩
  · rintro ⟨n, -, run, brk⟩
    rcases runFor_ok_iff.mp run with ⟨smooth, rfl, -⟩ | ⟨j, -, rest⟩
    · exact absurd brk smooth.not_endsInBrk
    · exact ⟨j, rest⟩

theorem runFor_of_returns (returns : m.Returns (.ok k, left)) :
    1 ≤ k ∧ left.halted = true ∧ ∀ n ≥ k, m.runFor n = (.ok k, left) := by
  obtain ⟨j, halts, rfl, rfl⟩ := returns_ok_iff.mp returns
  refine ⟨Nat.le_add_left 1 j, (halted_after halts.good j.succ_pos).mpr halts.endsInBrk, ?_⟩
  intro n enough
  exact (halts.runFor enough).1

theorem returns_error_iff_runFor :
    m.Returns (.error fault, left) ↔ ∃ n, m.runFor n = (.error fault, left) := by
  simp only [Returns, run?_error_iff, runFor_error_iff]

/-- A run goes on for good if every budget is used up and none leads to a halt. -/
theorem diverges_iff_runFor :
    m.Diverges ↔ ∀ n, 1 ≤ n → (m.runFor n).1 = .ok n ∧ (m.runFor n).2.halted = false := by
  rw [diverges_iff]
  constructor
  · intro smooth n positive
    have going : ¬ (m.after n).halted = true := fun halted =>
      (smooth n).not_endsInBrk ((halted_after (smooth n).good positive).mp halted)
    rw [(smooth n).runFor.1]
    exact ⟨rfl, Bool.eq_false_iff.mpr going⟩
  · intro spends n
    rcases m.ways n with smooth | ⟨j, -, halts⟩ | ⟨j, -, fault, fails⟩
    · exact smooth
    · obtain ⟨-, going⟩ := spends (j + 1) (Nat.le_add_left 1 j)
      have halted := (halted_after halts.good j.succ_pos).mpr halts.endsInBrk
      rw [(halts.runFor (Nat.lt_succ_self j)).1, halted] at going
      cases going
    · obtain ⟨counts, -⟩ := spends (j + 1) (Nat.le_add_left 1 j)
      rw [(fails.runFor (Nat.lt_succ_self j)).1] at counts
      cases counts

/-- A BRK does no more to memory and the pointers than to be fetched. -/
theorem seq_of_atBrk (brk : m.AtBrk) : m.step.machine.core.seq = m.core.seq.next.2 := by
  obtain ⟨⟨mn, mode⟩, h, mnemonic⟩ := Option.map_eq_some_iff.mp brk
  dsimp only at mnemonic
  subst mnemonic
  have implicit : mode = .implicit := eq_of_beq (InstructionSet.isSupported_of_get? h)
  subst implicit
  have behind : m.behind ⟨.brk, .implicit⟩ = m.core.seq.pc + 1 := UInt16.add_zero _
  rw [step_of_some h]
  simp only [result, outcome, behind]
  rfl

/-- The last read of a run that ends with a count is that of a BRK, right ahead of the program
counter. -/
theorem brk_of_returns (returns : m.Returns (.ok k, left)) :
    ∃ bus, let (b, bus) := Bus.read bus (left.core.seq.pc - 1)
      left.core.seq.bus = bus ∧ (left.set.get? b).map Instruction.mnemonic = some .brk := by
  obtain ⟨j, halts, -, rfl⟩ := returns_ok_iff.mp returns
  have brk := halts.brk
  simp only [after, step_set, seq_of_atBrk brk]
  generalize m.after j = last at brk
  have back : last.core.seq.next.2.pc - 1 = last.core.seq.pc := UInt16.add_sub_cancel _ _
  exact ⟨last.core.seq.bus, by rw [back]; exact ⟨rfl, brk⟩⟩

end

theorem brk_of_returns_ram {m left : Machine Ram} {k : Nat} (returns : m.Returns (.ok k, left)) :
    (left.set.get? (left.core.seq.bus.get (left.core.seq.pc - 1))).map Instruction.mnemonic =
      some .brk := by
  obtain ⟨bus, same, brk⟩ := brk_of_returns returns
  rw [same]
  exact brk

/-- Under layers as well, the cell holds the BRK if no register lies over it. -/
theorem brk_of_returns_memory {δ : Type} [Host δ] {m left : Machine (Memory δ)} {k : Nat}
    (returns : m.Returns (.ok k, left))
    (plain : ∀ l ∈ left.core.seq.bus.layouts, l.IsPlain (left.core.seq.pc - 1)) :
    (left.set.get? (left.core.seq.bus.ram.get (left.core.seq.pc - 1))).map Instruction.mnemonic =
      some .brk := by
  obtain ⟨bus, same, brk⟩ := brk_of_returns returns
  generalize left.core.seq.pc - 1 = a at *
  have layouts : left.core.seq.bus.layouts = bus.layouts := by
    rw [same]
    exact Memory.meet_layouts bus (.read a)
  rw [layouts] at plain
  rw [bus.read_of_plain_layers plain] at same brk
  rw [same]
  exact brk

/-- A run without a budget is a run with any budget that is large enough. It returns a count just if
some budget lets the run end in a BRK, and fails just if it does so with some budget; the result and
the machine are then the same for all larger budgets. It goes on for good just if every budget is
used up without a halt. On plain memory a count means that there is a BRK right ahead of the program
counter, and so it does under layers without a register there. -/
theorem run?_runFor {M : Type} [Bus M] (m : Machine M) :
    (∀ fuel r, m.run? fuel = some r → ∀ more ≥ fuel, m.run? more = some r) ∧
      (∀ k left, m.Returns (.ok k, left) ↔
        ∃ n, 1 ≤ n ∧ m.runFor n = (.ok k, left) ∧ m.EndsInBrk k) ∧
      (∀ k left, m.Returns (.ok k, left) →
        1 ≤ k ∧ left.halted = true ∧ ∀ n ≥ k, m.runFor n = (.ok k, left)) ∧
      (∀ fault left, m.Returns (.error fault, left) ↔ ∃ n, m.runFor n = (.error fault, left)) ∧
      (m.Diverges ↔ ∀ n, 1 ≤ n → (m.runFor n).1 = .ok n ∧ (m.runFor n).2.halted = false) ∧
      (∀ (flat : Machine Ram) k left, flat.Returns (.ok k, left) →
        (left.set.get? (left.core.seq.bus.get (left.core.seq.pc - 1))).map Instruction.mnemonic =
          some .brk) ∧
      ∀ (δ : Type) [Host δ] (n : Machine (Memory δ)) k left, n.Returns (.ok k, left) →
        (∀ l ∈ left.core.seq.bus.layouts, l.IsPlain (left.core.seq.pc - 1)) →
          (left.set.get? (left.core.seq.bus.ram.get (left.core.seq.pc - 1))).map
            Instruction.mnemonic = some .brk := by
  refine ⟨fun _ _ run _ le => run?_mono run le, ?_, ?_, ?_, diverges_iff_runFor, ?_, ?_⟩
  · intro k left
    exact returns_ok_iff_runFor
  · intro k left
    exact runFor_of_returns
  · intro fault left
    exact returns_error_iff_runFor
  · intro flat k left
    exact brk_of_returns_ram
  · intro δ _ n k left
    exact brk_of_returns_memory

end Machine

end Console6502
