import Console6502.Proofs.Control

namespace Console6502

namespace Machine

variable {M : Type} [Bus M]

/-- The instruction at the program counter is a BRK. -/
def AtBrk (m : Machine M) : Prop := m.next?.map Instruction.mnemonic = some .brk

/-- The last of `k` steps carries out a BRK. -/
def EndsInBrk (m : Machine M) (k : Nat) : Prop := ∃ j, k = j + 1 ∧ (m.after j).AtBrk

theorem step_set (m : Machine M) : m.step.machine.set = m.set := by
  cases h : m.next? with
  | none =>
    rw [step_of_none h]
    rfl
  | some i =>
    rw [step_of_some h]
    rfl

theorem after_set (m : Machine M) (k : Nat) : (m.after k).set = m.set := by
  induction k with
  | zero => rfl
  | succ k ih => exact (step_set (m.after k)).trans ih

theorem steps_le_step (m : Machine M) : m.steps ≤ m.step.machine.steps := by
  cases h : m.next? with
  | none =>
    rw [step_of_none h]
    exact Nat.le_refl _
  | some i =>
    rw [step_of_some h]
    exact Nat.le_succ _

theorem steps_le_after (m : Machine M) (k : Nat) : m.steps ≤ (m.after k).steps := by
  induction k with
  | zero => exact Nat.le_refl _
  | succ k ih => exact Nat.le_trans ih (m.after k).steps_le_step

/-- A step that does not fail is counted, and halts the machine just if it is a BRK. -/
theorem step_done {m : Machine M} (ok : m.step.fault? = none) :
    m.step.machine.steps = m.steps + 1 ∧ (m.step.machine.halted = true ↔ m.AtBrk) := by
  cases h : m.next? with
  | none => simp [step_of_none h] at ok
  | some i =>
    rw [step_of_some h]
    refine ⟨rfl, ?_⟩
    change (m.outcome i).halts = true ↔ _
    simp [outcome, Mnemonic.outcome_halts, AtBrk, h]

section

variable {m : Machine M} {k : Nat} (good : ∀ j < k, (m.after j).step.fault? = none)
include good

theorem steps_after : (m.after k).steps = m.steps + k := by
  induction k with
  | zero => rfl
  | succ k ih =>
    obtain ⟨good, last⟩ := Nat.forall_lt_succ_right.mp good
    obtain ⟨counted, -⟩ := step_done last
    rw [after, counted, ih good, Nat.add_assoc]

/-- Whatever the flag was before, behind a step it tells of that step. -/
theorem halted_after (positive : 0 < k) : (m.after k).halted = true ↔ m.EndsInBrk k := by
  obtain ⟨j, rfl⟩ := Nat.exists_eq_add_one.mpr positive
  obtain ⟨-, halts⟩ := step_done (good j (Nat.lt_succ_self j))
  simpa [EndsInBrk, after] using halts

/-- A flag that was clear before tells that no BRK was carried out also when no step was taken. -/
theorem halted_after_clear (clear : m.halted = false) :
    (m.after k).halted = true ↔ m.EndsInBrk k := by
  cases k with
  | zero =>
    have never : ¬ m.EndsInBrk 0 := by
      intro brk
      obtain ⟨j, none, -⟩ := brk
      cases none
    simp [after, clear, never]
  | succ k => exact halted_after good k.succ_pos

end

/-- A run goes on behind a step that neither fails nor halts the machine. -/
def GoesOn (m : Machine M) : Prop := m.step.fault? = none ∧ m.step.machine.halted = false

/-- A run goes on behind each of the first `k` steps. -/
def Smooth (m : Machine M) (k : Nat) : Prop := ∀ j < k, (m.after j).GoesOn

/-- Behind `k` smooth steps there is one that carries out a BRK. -/
structure HaltsAt (m : Machine M) (k : Nat) : Prop where
  smooth : m.Smooth k
  ok : (m.after k).step.fault? = none
  brk : (m.after k).AtBrk

/-- Behind `k` smooth steps there is one that fails. -/
structure FailsAt (m : Machine M) (k : Nat) (fault : Fault) : Prop where
  smooth : m.Smooth k
  failed : (m.after k).step.fault? = some fault

theorem smooth_succ {m : Machine M} {k : Nat} : m.Smooth (k + 1) ↔ m.Smooth k ∧ (m.after k).GoesOn :=
  Nat.forall_lt_succ_right

theorem GoesOn.not_atBrk {m : Machine M} (on : m.GoesOn) : ¬ m.AtBrk := by
  obtain ⟨ok, going⟩ := on
  obtain ⟨-, halts⟩ := step_done ok
  simp [← halts, going]

section

variable {m : Machine M} {k : Nat} {fault : Fault}

theorem Smooth.good (smooth : m.Smooth k) : ∀ j < k, (m.after j).step.fault? = none :=
  fun j hj => (smooth j hj).1

theorem Smooth.not_endsInBrk (smooth : m.Smooth k) : ¬ m.EndsInBrk k := by
  rintro ⟨j, rfl, brk⟩
  exact (smooth j (Nat.lt_succ_self j)).not_atBrk brk

theorem HaltsAt.good (halts : m.HaltsAt k) : ∀ j < k + 1, (m.after j).step.fault? = none :=
  Nat.forall_lt_succ_right.mpr ⟨halts.smooth.good, halts.ok⟩

theorem HaltsAt.endsInBrk (halts : m.HaltsAt k) : m.EndsInBrk (k + 1) := ⟨k, rfl, halts.brk⟩

theorem HaltsAt.stops (halts : m.HaltsAt k) : ¬ (m.after k).GoesOn := fun on => on.not_atBrk halts.brk

theorem FailsAt.stops (fails : m.FailsAt k fault) : ¬ (m.after k).GoesOn := by
  rintro ⟨ok, -⟩
  rw [fails.failed] at ok
  cases ok

end

/-- The three ways in which `n` steps can go. -/
theorem ways (m : Machine M) (n : Nat) :
    m.Smooth n ∨ (∃ k < n, m.HaltsAt k) ∨ ∃ k < n, ∃ fault, m.FailsAt k fault := by
  induction n with
  | zero => exact .inl fun j hj => absurd hj (Nat.not_lt_zero j)
  | succ n ih =>
    rcases ih with smooth | ⟨k, hk, halts⟩ | ⟨k, hk, fails⟩
    · cases result : (m.after n).step.fault? with
      | some fault => exact .inr (.inr ⟨n, Nat.lt_succ_self n, fault, smooth, result⟩)
      | none =>
        obtain ⟨-, halts⟩ := step_done result
        cases halted : (m.after n).step.machine.halted with
        | true => exact .inr (.inl ⟨n, Nat.lt_succ_self n, smooth, result, halts.mp halted⟩)
        | false => exact .inl (smooth_succ.mpr ⟨smooth, result, halted⟩)
    · exact .inr (.inl ⟨k, Nat.lt_succ_of_lt hk, halts⟩)
    · exact .inr (.inr ⟨k, Nat.lt_succ_of_lt hk, fails⟩)

/-- All that the first `k` steps note. -/
def log (m : Machine M) : Nat → List Record
  | 0 => []
  | k + 1 => m.log k ++ (m.after k).step.records

section

variable {σ : Type} (note : σ → Record → σ) {m : Machine M} {k n : Nat}

theorem run_of_goesOn (on : m.GoesOn) (n : Nat) (notes : σ) :
    let noted := m.step.records.foldl note notes
    runNoting note (n + 1) m notes = runNoting note n m.step.machine noted ∧
      runToEndNoting note (n + 1) m notes = runToEndNoting note n m.step.machine noted := by
  obtain ⟨ok, going⟩ := on
  cases h : m.step with
  | mk next records fault =>
    simp only [h] at ok going
    simp [runNoting, runToEndNoting, h, ok, going]

theorem run_of_stop (stop : ¬ m.GoesOn) (n : Nat) (notes : σ) :
    let left : Run M σ := ⟨m.step.fault?, m.step.machine, m.step.records.foldl note notes⟩
    runNoting note (n + 1) m notes = left ∧ runToEndNoting note (n + 1) m notes = some left := by
  cases h : m.step with
  | mk next records fault =>
    simp only [GoesOn, h] at stop
    cases fault with
    | some fault => simp [runNoting, runToEndNoting, h]
    | none =>
      have halted : next.halted = true := by simpa using stop
      simp [runNoting, runToEndNoting, h, halted]

/-- Behind smooth steps a run is a run of the rest. -/
theorem Smooth.run_add (smooth : m.Smooth k) (n : Nat) (notes : σ) :
    let noted := (m.log k).foldl note notes
    runNoting note (k + n) m notes = runNoting note n (m.after k) noted ∧
      runToEndNoting note (k + n) m notes = runToEndNoting note n (m.after k) noted := by
  induction k generalizing n with
  | zero => simp [after, log]
  | succ k ih =>
    obtain ⟨smooth, last⟩ := smooth_succ.mp smooth
    obtain ⟨budgeted, unbudgeted⟩ := ih smooth (n + 1)
    obtain ⟨next, next'⟩ := run_of_goesOn note last n ((m.log k).foldl note notes)
    rw [Nat.succ_add_eq_add_succ, log, List.foldl_append]
    exact ⟨budgeted.trans next, unbudgeted.trans next'⟩

/-- A smooth run uses its budget up, and has not come to an end. -/
theorem Smooth.run (smooth : m.Smooth k) (notes : σ) :
    runNoting note k m notes = ⟨none, m.after k, (m.log k).foldl note notes⟩ ∧
      runToEndNoting note k m notes = none :=
  smooth.run_add note 0 notes

/-- A run that may go so far ends with the first step behind which it does not go on. -/
theorem Smooth.run_stop (smooth : m.Smooth k) (stop : ¬ (m.after k).GoesOn) (hk : k < n) (notes : σ) :
    let left : Run M σ :=
      ⟨(m.after k).step.fault?, m.after (k + 1), (m.log (k + 1)).foldl note notes⟩
    runNoting note n m notes = left ∧ runToEndNoting note n m notes = some left := by
  obtain ⟨rest, rfl⟩ := Nat.exists_eq_add_of_lt hk
  obtain ⟨budgeted, unbudgeted⟩ := smooth.run_add note (rest + 1) notes
  obtain ⟨last, last'⟩ := run_of_stop note stop rest ((m.log k).foldl note notes)
  rw [log, List.foldl_append]
  exact ⟨budgeted.trans last, unbudgeted.trans last'⟩

theorem runNoting_after (budget : Nat) (m : Machine M) (notes : σ) :
    ∃ k ≤ budget, (runNoting note budget m notes).machine = m.after k := by
  rcases m.ways budget with smooth | ⟨k, hk, halts⟩ | ⟨k, hk, fault, fails⟩
  · exact ⟨budget, Nat.le_refl budget, by rw [(smooth.run note notes).1]⟩
  · exact ⟨k + 1, hk, by rw [(halts.smooth.run_stop note halts.stops hk notes).1]⟩
  · exact ⟨k + 1, hk, by rw [(fails.smooth.run_stop note fails.stops hk notes).1]⟩

end

section

variable {m : Machine M} {k n : Nat} {fault : Fault}

theorem Smooth.runFor (smooth : m.Smooth k) :
    m.runFor k = (.ok k, m.after k) ∧ m.run? k = none := by
  obtain ⟨budgeted, unbudgeted⟩ := smooth.run (fun _ _ => ()) ()
  simp [Machine.runFor, Machine.run?, budgeted, unbudgeted, Run.result, steps_after smooth.good]

theorem HaltsAt.runFor (halts : m.HaltsAt k) (hk : k < n) :
    let r := (.ok (k + 1), m.after (k + 1))
    m.runFor n = r ∧ m.run? n = some r := by
  obtain ⟨budgeted, unbudgeted⟩ := halts.smooth.run_stop (fun _ _ => ()) halts.stops hk ()
  simp [Machine.runFor, Machine.run?, budgeted, unbudgeted, Run.result, halts.ok,
    steps_after halts.good]

theorem FailsAt.runFor (fails : m.FailsAt k fault) (hk : k < n) :
    let r := (.error fault, m.after (k + 1))
    m.runFor n = r ∧ m.run? n = some r := by
  obtain ⟨budgeted, unbudgeted⟩ := fails.smooth.run_stop (fun _ _ => ()) fails.stops hk ()
  simp [Machine.runFor, Machine.run?, budgeted, unbudgeted, Run.result, fails.failed]

end

section

variable {m : Machine M} {n : Nat}

/-- A count is given for a budget that is used up, and for a BRK. -/
theorem runFor_ok_iff {k : Nat} {left : Machine M} :
    m.runFor n = (.ok k, left) ↔
      (m.Smooth n ∧ k = n ∧ left = m.after n) ∨
        ∃ j < n, m.HaltsAt j ∧ k = j + 1 ∧ left = m.after (j + 1) := by
  constructor
  · intro run
    rcases m.ways n with smooth | ⟨j, hj, halts⟩ | ⟨j, hj, fault, fails⟩
    · rw [smooth.runFor.1] at run
      cases run
      exact .inl ⟨smooth, rfl, rfl⟩
    · rw [(halts.runFor hj).1] at run
      cases run
      exact .inr ⟨j, hj, halts, rfl, rfl⟩
    · rw [(fails.runFor hj).1] at run
      cases run
  · rintro (⟨smooth, rfl, rfl⟩ | ⟨j, hj, halts, rfl, rfl⟩)
    · exact smooth.runFor.1
    · exact (halts.runFor hj).1

theorem runFor_error_iff {fault : Fault} {left : Machine M} :
    m.runFor n = (.error fault, left) ↔ ∃ j < n, m.FailsAt j fault ∧ left = m.after (j + 1) := by
  constructor
  · intro run
    rcases m.ways n with smooth | ⟨j, hj, halts⟩ | ⟨j, hj, fault, fails⟩
    · rw [smooth.runFor.1] at run
      cases run
    · rw [(halts.runFor hj).1] at run
      cases run
    · rw [(fails.runFor hj).1] at run
      cases run
      exact ⟨j, hj, fails, rfl⟩
  · rintro ⟨j, hj, fails, rfl⟩
    exact (fails.runFor hj).1

theorem HaltsAt.not_smooth {k : Nat} (halts : m.HaltsAt k) (hk : k < n) : ¬ m.Smooth n :=
  fun smooth => halts.stops (smooth k hk)

theorem FailsAt.not_smooth {k : Nat} {fault : Fault} (fails : m.FailsAt k fault) (hk : k < n) :
    ¬ m.Smooth n :=
  fun smooth => fails.stops (smooth k hk)

/-- Without a budget a run ends only with a BRK or a fault, and then as it would with a budget. -/
theorem run?_eq_some_iff {r : Except Fault Nat × Machine M} :
    m.run? n = some r ↔ m.runFor n = r ∧ ¬ m.Smooth n := by
  rcases m.ways n with smooth | ⟨j, hj, halts⟩ | ⟨j, hj, fault, fails⟩
  · simp [smooth.runFor, smooth]
  · simp [halts.runFor hj, halts.not_smooth hj]
  · simp [fails.runFor hj, fails.not_smooth hj]

theorem run?_ok_iff {k : Nat} {left : Machine M} :
    m.run? n = some (.ok k, left) ↔
      ∃ j < n, m.HaltsAt j ∧ k = j + 1 ∧ left = m.after (j + 1) := by
  rw [run?_eq_some_iff, runFor_ok_iff]
  constructor
  · rintro ⟨⟨smooth, -⟩ | halts, rough⟩
    · exact absurd smooth rough
    · exact halts
  · rintro ⟨j, hj, halts, rest⟩
    exact ⟨.inr ⟨j, hj, halts, rest⟩, halts.not_smooth hj⟩

theorem run?_error_iff {fault : Fault} {left : Machine M} :
    m.run? n = some (.error fault, left) ↔
      ∃ j < n, m.FailsAt j fault ∧ left = m.after (j + 1) := by
  rw [run?_eq_some_iff, runFor_error_iff]
  constructor
  · rintro ⟨fails, -⟩
    exact fails
  · rintro ⟨j, hj, fails, rest⟩
    exact ⟨⟨j, hj, fails, rest⟩, fails.not_smooth hj⟩

end

end Machine

end Console6502
