import Console6502.Proofs.Drawing

namespace Console6502

/-- Byte `i` is the last to land in a cell, of an image of this length that is stored from `origin`
on. -/
structure LandsLast (origin a : Address) (length i : Nat) : Prop where
  inside : i < length
  here : (origin.toNat + i) % 65536 = a.toNat
  later : ∀ j, i < j → j < length → (origin.toNat + j) % 65536 ≠ a.toNat

/-- No byte of such an image lands in a cell. -/
def Missed (origin a : Address) (length : Nat) : Prop :=
  ∀ i < length, (origin.toNat + i) % 65536 ≠ a.toNat

/-- Each cell holds the last byte of the image to land in it, or else what it held before. -/
def Ram.Takes (before : Ram) (image : List Byte) (origin : Address) (after : Ram) : Prop :=
  ∀ a, (∃ i, LandsLast origin a image.length i ∧ image[i]? = some (after.get a)) ∨
    (Missed origin a image.length ∧ after.get a = before.get a)

section

variable {origin a : Address} {length i : Nat}

/-- All bytes behind the first land as they would from the next address on. -/
theorem Address.lands_succ (origin : Address) (i : Nat) :
    (origin.toNat + (i + 1)) % 65536 = ((origin + 1).toNat + i) % 65536 := by
  rw [UInt16.toNat_add]
  simp only [UInt16.reduceToNat]
  omega

theorem LandsLast.succ (h : LandsLast (origin + 1) a length i) :
    LandsLast origin a (length + 1) (i + 1) where
  inside := Nat.succ_lt_succ h.inside
  here := by
    rw [origin.lands_succ]
    exact h.here
  later := by
    intro j behind inside
    cases j with
    | zero => exact absurd behind (Nat.not_lt_zero _)
    | succ j =>
      rw [origin.lands_succ]
      exact h.later j (Nat.lt_of_succ_lt_succ behind) (Nat.lt_of_succ_lt_succ inside)

/-- A first byte on which no other lands is the last in its cell. -/
theorem Missed.landsLast (h : Missed (origin + 1) origin length) :
    LandsLast origin origin (length + 1) 0 where
  inside := Nat.zero_lt_succ length
  here := Nat.mod_eq_of_lt origin.toNat_lt
  later := by
    intro j behind inside
    cases j with
    | zero => exact absurd behind (Nat.lt_irrefl 0)
    | succ j =>
      rw [origin.lands_succ]
      exact h j (Nat.lt_of_succ_lt_succ inside)

theorem Missed.succ (h : Missed (origin + 1) a length) (other : origin ≠ a) :
    Missed origin a (length + 1) := by
  intro j inside
  cases j with
  | zero =>
    intro here
    rw [Nat.add_zero, Nat.mod_eq_of_lt origin.toNat_lt] at here
    exact other (UInt16.toNat_inj.mp here)
  | succ j =>
    rw [origin.lands_succ]
    exact h j (Nat.lt_of_succ_lt_succ inside)

end

/-- By induction on the image, whose first byte stays where none of the others lands. -/
theorem Ram.takes_image (ram : Ram) (image : List Byte) (origin : Address) :
    ram.Takes image origin (Bus.writeAll ram (imageWrites image origin)) := by
  induction image generalizing ram origin with
  | nil =>
    intro a
    exact .inr ⟨fun i none => absurd none (Nat.not_lt_zero i), rfl⟩
  | cons b image ih =>
    intro a
    rcases ih (ram.set origin b) (origin + 1) a with ⟨i, last, here⟩ | ⟨missed, kept⟩
    · exact .inl ⟨i + 1, last.succ, here⟩
    · change (Bus.writeAll ram (imageWrites (b :: image) origin)).get a = _ at kept
      by_cases first : origin = a
      · subst first
        rw [get_set_self] at kept
        exact .inl ⟨0, missed.landsLast, congrArg some kept.symm⟩
      · rw [get_set_other ram b first] at kept
        exact .inr ⟨missed.succ first, kept⟩

/-- The bytes of an image by number, each with the cell that it goes to. -/
theorem imageWrites_eq (image : List Byte) (origin : Address) :
    imageWrites image origin = image.zipIdx.map fun (b, i) => (origin + UInt16.ofNat i, b) := by
  induction image generalizing origin with
  | nil => rfl
  | cons b image ih =>
    have first : (origin, b) = (origin + UInt16.ofNat 0, b) :=
      congrArg (·, b) (UInt16.add_zero origin).symm
    change (origin, b) :: imageWrites image (origin + 1) = _
    rw [ih, List.zipIdx_cons', List.map_cons, List.map_map, first]
    simp only [Address.add_one_add]
    rfl

namespace Memory

variable {δ : Type} [Host δ]

theorem writeAll_ram (memory : Memory δ) (writes : List (Address × Byte)) :
    (Bus.writeAll memory writes).ram = Bus.writeAll memory.ram writes := by
  induction writes generalizing memory with
  | nil => rfl
  | cons w writes ih =>
    have first : (memory.write w.1 w.2).ram = memory.ram.set w.1 w.2 := write_ram memory w.1 w.2
    exact (ih (memory.write w.1 w.2)).trans (congrArg (Bus.writeAll · writes) first)

theorem write_reports (memory : Memory δ) (a : Address) (b : Byte) :
    (memory.write a b).layers = memory.layers.map fun l =>
      { l with device := (l.layout.report a b).foldl Host.draw l.device } := by
  induction memory with
  | plain ram => rfl
  | layered layer inner ih => simp only [write, layers, List.map_cons, ih, watch_eq]

/-- Each layer's device is told of the writes to its window in order, and nothing else of a layer
changes. -/
theorem writeAll_reports (memory : Memory δ) (writes : List (Address × Byte)) :
    (Bus.writeAll memory writes).layers = memory.layers.map fun l =>
      { l with device :=
          (writes.flatMap fun (a, b) => l.layout.report a b).foldl Host.draw l.device } := by
  induction writes generalizing memory with
  | nil => exact (List.map_id _).symm
  | cons w writes ih =>
    change (Bus.writeAll (memory.write w.1 w.2) writes).layers = _
    rw [ih, write_reports, List.map_map]
    simp only [List.flatMap_cons, List.foldl_append]
    rfl

end Memory

theorem Sequencer.load_append {M : Type} [Bus M] (s : Sequencer M) (first last : List Byte)
    (origin : Address) :
    s.load (first ++ last) origin =
      (s.load first origin).load last (origin + UInt16.ofNat first.length) := by
  induction first generalizing s origin with
  | nil => exact congrArg (s.load last) (UInt16.add_zero origin).symm
  | cons b first ih =>
    rw [List.cons_append, load, load, ih, Address.add_one_add, List.length_cons]

/-- An image of any length leaves the last of its bytes to land in each cell, in plain memory and
under any layers. Each device is told of one pixel for each byte that lands in its window, in the
order of the image, and nothing else of a layer changes. The pointers stay, and an image may be
stored in two parts. A machine does the same; then it is at the start of the image and not halted,
with nothing else changed. -/
theorem Machine.load_lands (image : List Byte) (origin : Address) :
    (∀ s : Sequencer Ram, s.bus.Takes image origin (s.load image origin).bus) ∧
      (∀ (δ : Type) [Host δ] (s : Sequencer (Memory δ)),
        s.bus.ram.Takes image origin (s.load image origin).bus.ram ∧
          (s.load image origin).bus.layers = s.bus.layers.map fun l =>
            { l with device := (image.zipIdx.flatMap fun (b, i) =>
                l.layout.report (origin + UInt16.ofNat i) b).foldl Host.draw l.device }) ∧
      ∀ (M : Type) [Bus M],
        (∀ s : Sequencer M,
          (s.load image origin).pc = s.pc ∧ (s.load image origin).sp = s.sp ∧
            ∀ more, s.load (image ++ more) origin =
              (s.load image origin).load more (origin + UInt16.ofNat image.length)) ∧
        ∀ m : Machine M,
          let n := m.load image origin
          n.core.seq = (m.core.seq.load image origin).jump origin ∧ n.core.seq.pc = origin ∧
            n.core.seq.sp = m.core.seq.sp ∧ n.halted = false ∧ n.core.cpu = m.core.cpu ∧
            n.steps = m.steps ∧ n.set = m.set := by
  refine ⟨?_, ?_, ?_⟩
  · intro s
    rw [s.load_eq]
    exact s.bus.takes_image image origin
  · intro δ _ s
    rw [s.load_eq]
    refine ⟨?_, ?_⟩
    · rw [Memory.writeAll_ram]
      exact s.bus.ram.takes_image image origin
    · rw [Memory.writeAll_reports]
      simp only [imageWrites_eq, List.flatMap_map]
  · intro M _
    refine ⟨?_, ?_⟩
    · intro s
      refine ⟨?_, ?_, fun more => s.load_append image more origin⟩
      · rw [s.load_eq]
      · rw [s.load_eq]
    · intro m n
      obtain ⟨⟨cpu, seq⟩, set, halted, steps⟩ := m
      have sp : n.core.seq.sp = seq.sp := by
        change (seq.load image origin).sp = seq.sp
        rw [seq.load_eq]
      exact ⟨rfl, rfl, sp, rfl, rfl, rfl, rfl⟩

end Console6502
