import Console6502.Proofs.Runs

namespace Console6502

namespace Machine

variable {M : Type} [Bus M]

/-- A result when `k` steps were taken ahead of it. -/
def later (k : Nat) : Except Fault Nat × Machine M → Except Fault Nat × Machine M
  | (result, left) => (result.map (k + ·), left)

/-- Runs one batch after another, up to the first that halts or fails. A batch without steps does not
halt, whatever the machine was like before. -/
def runBatches (m : Machine M) : List Nat → Except Fault Nat × Machine M
  | [] => (.ok 0, m)
  | n :: budgets =>
    match m.runFor n with
    | (.error fault, left) => (.error fault, left)
    | (.ok k, left) =>
      if 0 < k ∧ left.halted then (.ok k, left) else later k (left.runBatches budgets)

/-- What it means that a run with a budget of `n` steps counts `k`. -/
structure Counts (m : Machine M) (n k : Nat) : Prop where
  within : k ≤ n
  left : (m.runFor n).2 = m.after k
  good : ∀ j < k, (m.after j).step.fault? = none
  steps : (m.runFor n).2.steps = m.steps + k
  before : ∀ j, j + 1 < k → ¬ (m.after j).AtBrk
  early : k < n → m.EndsInBrk k
  halted : 0 < k → ((m.runFor n).2.halted = true ↔ m.EndsInBrk k)

theorem counts_of_good {m : Machine M} {n k : Nat} (run : m.runFor n = (.ok k, m.after k))
    (within : k ≤ n) (good : ∀ j < k, (m.after j).step.fault? = none)
    (before : ∀ j, j + 1 < k → ¬ (m.after j).AtBrk) (early : k < n → m.EndsInBrk k) :
    m.Counts n k where
  within := within
  left := by rw [run]
  good := good
  steps := by
    rw [run]
    exact steps_after good
  before := before
  early := early
  halted := by
    rw [run]
    exact halted_after good

theorem Smooth.counts {m : Machine M} {n : Nat} (smooth : m.Smooth n) : m.Counts n n := by
  refine counts_of_good smooth.runFor.1 (Nat.le_refl n) smooth.good ?_ ?_
  · intro j hj
    exact (smooth j (Nat.lt_of_succ_lt hj)).not_atBrk
  · intro early
    exact absurd early (Nat.lt_irrefl n)

theorem HaltsAt.counts {m : Machine M} {k n : Nat} (halts : m.HaltsAt k) (hk : k < n) :
    m.Counts n (k + 1) := by
  refine counts_of_good (halts.runFor hk).1 hk halts.good ?_ fun _ => halts.endsInBrk
  intro j hj
  exact (halts.smooth j (Nat.lt_of_succ_lt_succ hj)).not_atBrk

omit [Bus M] in
/-- A count goes by the steps taken since the start of a run. -/
theorem Run.result_add {σ : Type} (r : Run M σ) {start n : Nat} (le : start + n ≤ r.machine.steps) :
    r.result start = (r.result (start + n)).map (n + ·) := by
  cases h : r.fault? with
  | some fault => simp [Run.result, h, Except.map]
  | none =>
    have counted : r.machine.steps - start = n + (r.machine.steps - (start + n)) := by omega
    simp [Run.result, h, Except.map, counted]

/-- Behind a smooth run the rest of a budget is spent as a budget of its own. -/
theorem Smooth.runFor_add {m : Machine M} {n : Nat} (smooth : m.Smooth n) (extra : Nat) :
    m.runFor (n + extra) = later n ((m.after n).runFor extra) := by
  obtain ⟨rest, -⟩ := smooth.run_add (fun _ _ => ()) extra ()
  obtain ⟨k, -, goes⟩ := runNoting_after (fun _ _ => ()) extra (m.after n) ()
  have steps := steps_after smooth.good
  have le : m.steps + n ≤ (runNoting (fun _ _ => ()) extra (m.after n) ()).machine.steps := by
    rw [goes, ← steps]
    exact (m.after n).steps_le_after k
  simp only [Machine.runFor, rest, later, steps]
  rw [Run.result_add _ le]

theorem HaltsAt.runFor_add {m : Machine M} {k n : Nat} (halts : m.HaltsAt k) (hk : k < n)
    (extra : Nat) : m.runFor (n + extra) = m.runFor n := by
  rw [(halts.runFor hk).1, (halts.runFor (Nat.lt_add_right extra hk)).1]

theorem FailsAt.runFor_add {m : Machine M} {k n : Nat} {fault : Fault} (fails : m.FailsAt k fault)
    (hk : k < n) (extra : Nat) : m.runFor (n + extra) = m.runFor n := by
  rw [(fails.runFor hk).1, (fails.runFor (Nat.lt_add_right extra hk)).1]

theorem runBatches_eq (m : Machine M) (budgets : List Nat) :
    m.runBatches budgets = m.runFor (budgets.foldr (· + ·) 0) := by
  induction budgets generalizing m with
  | nil => simp [runBatches, runFor, runNoting, Run.result]
  | cons n budgets ih =>
    rw [List.foldr_cons]
    rcases m.ways n with smooth | ⟨k, hk, halts⟩ | ⟨k, hk, fault, fails⟩
    · have going : ¬ (0 < n ∧ (m.after n).halted = true) := by
        rintro ⟨positive, halted⟩
        exact smooth.not_endsInBrk ((halted_after smooth.good positive).mp halted)
      simp only [runBatches, smooth.runFor, going, if_false, ih, smooth.runFor_add]
    · have halted := (halted_after halts.good k.succ_pos).mpr halts.endsInBrk
      rw [halts.runFor_add hk]
      simp [runBatches, halts.runFor hk, halted]
    · rw [fails.runFor_add hk]
      simp [runBatches, fails.runFor hk]

/-- How the host cuts a run into batches makes no difference. A count tells how many steps were
taken, and unless it is the whole budget the last of them was a BRK. Behind a batch that does not
end in a BRK, the rest of a budget is spent as a budget of its own; a batch that ends in a BRK or
fails is all there is to the run. -/
theorem runFor_split (m : Machine M) (n : Nat) :
    (∀ k, (m.runFor n).1 = .ok k →
      m.Counts n k ∧
        (¬ m.EndsInBrk k →
          k = n ∧ ∀ extra, m.runFor (n + extra) = later n ((m.runFor n).2.runFor extra)) ∧
        (m.EndsInBrk k → ∀ extra, m.runFor (n + extra) = m.runFor n)) ∧
      (∀ fault, (m.runFor n).1 = .error fault → ∀ extra, m.runFor (n + extra) = m.runFor n) ∧
      ∀ budgets, m.runBatches budgets = m.runFor (budgets.foldr (· + ·) 0) := by
  refine ⟨?_, ?_, m.runBatches_eq⟩
  · intro k counted
    rcases runFor_ok_iff.mp (Prod.ext counted rfl) with ⟨smooth, rfl, -⟩ |
      ⟨j, hj, halts, rfl, -⟩
    · refine ⟨smooth.counts, fun _ => ⟨rfl, ?_⟩, fun brk => absurd brk smooth.not_endsInBrk⟩
      intro extra
      rw [smooth.runFor_add, smooth.runFor.1]
    · exact ⟨halts.counts hj, fun other => absurd halts.endsInBrk other,
        fun _ => halts.runFor_add hj⟩
  · intro fault failed
    obtain ⟨j, hj, fails, -⟩ := runFor_error_iff.mp (Prod.ext failed rfl)
    exact fails.runFor_add hj

end Machine

end Console6502
