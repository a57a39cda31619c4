import Console6502.Proofs.Drawing

namespace Console6502

namespace Layout

/-- The product of two words, if it fits in one. -/
def product? (a b : UInt32) : Option UInt32 :=
  if a.toNat * b.toNat < UInt32.size then some (a * b) else none

def remainder? (a b : UInt32) : Option UInt32 := if b = 0 then none else some (a % b)

def quotient? (a b : UInt32) : Option UInt32 := if b = 0 then none else some (a / b)

/-- A word in half the width, if it fits. -/
def narrow? (a : UInt32) : Option UInt16 :=
  if a.toNat < UInt16.size then some a.toUInt16 else none

/-- The place shown by a cell, if there is one, and no answer at all where an operation on the way
to it has none. -/
def strictPosition? (l : Layout) (a : Address) : Option (Option (UInt16 × UInt16)) :=
  if a < l.start then some none
  else do
    let offset := (a - l.start).toUInt32
    let area ← product? l.width.toUInt32 l.height.toUInt32
    if area ≤ offset ∨ l.width = 0 then
      return none
    let column ← remainder? offset l.width.toUInt32
    let row ← quotient? offset l.width.toUInt32
    return some (← narrow? column, ← narrow? row)

/-- A pixel inside the window, of a color in its palette. -/
structure Fits (l : Layout) (p : Pixel) : Prop where
  column : p.x < l.width
  row : p.y < l.height
  color : p.color < max l.colors 1

theorem product?_area (l : Layout) : product? l.width.toUInt32 l.height.toUInt32 = some l.area := by
  have fits : l.width.toNat * l.height.toNat < UInt16.size * UInt16.size :=
    Nat.mul_lt_mul'' l.width.toNat_lt l.height.toNat_lt
  exact if_pos fits

theorem narrow?_of_le {a b : UInt32} (small : b.toNat < UInt16.size) (le : a.toNat ≤ b.toNat) :
    narrow? a = some a.toUInt16 :=
  if_pos (Nat.lt_of_le_of_lt le small)

/-- No operation on the way to a place overflows, divides by zero or cuts a result off. -/
theorem strictPosition?_eq (l : Layout) (a : Address) :
    l.strictPosition? a = some (l.position? a) := by
  unfold strictPosition? position?
  by_cases before : a < l.start
  · rw [if_pos before, if_pos before]
  · rw [if_neg before, if_neg before, product?_area]
    simp only [Option.bind_eq_bind, Option.bind_some]
    by_cases outside : l.area ≤ (a - l.start).toUInt32 ∨ l.width = 0
    · rw [if_pos outside, if_pos outside]
      rfl
    · have columns : l.width.toUInt32 ≠ 0 := by
        intro empty
        have empty : l.width.toNat = 0 := congrArg UInt32.toNat empty
        exact outside (.inr (UInt16.toNat_inj.mp empty))
      have small : (a - l.start).toUInt32.toNat < UInt16.size := (a - l.start).toNat_lt
      have column := narrow?_of_le small (a := (a - l.start).toUInt32 % l.width.toUInt32)
        (by rw [UInt32.toNat_mod]; exact Nat.mod_le _ _)
      have row := narrow?_of_le small (a := (a - l.start).toUInt32 / l.width.toUInt32)
        (by rw [UInt32.toNat_div]; exact Nat.div_le_self _ _)
      rw [if_neg outside, if_neg outside]
      simp only [remainder?, quotient?, if_neg columns, column, row, Option.bind_some]
      rfl

/-- The place shown by a cell, in plain numbers: so many full rows and cells behind the start. -/
theorem map_position? (l : Layout) (a : Address) (x y : Nat) :
    (l.position? a).map (fun (x, y) => (x.toNat, y.toNat)) = some (x, y) ↔
      x < l.width.toNat ∧ y < l.height.toNat ∧ l.start.toNat + y * l.width.toNat + x = a.toNat := by
  rw [Nat.add_assoc]
  constructor
  · intro shown
    obtain ⟨⟨column, row⟩, place, same⟩ := Option.map_eq_some_iff.mp shown
    obtain ⟨rfl, rfl⟩ := Prod.mk.inj same
    exact (l.position?_eq_some_iff a column row).mp place
  · intro inside
    have column : (UInt16.ofNat x).toNat = x :=
      UInt16.toNat_ofNat_of_lt' (Nat.lt_trans inside.1 l.width.toNat_lt)
    have row : (UInt16.ofNat y).toNat = y :=
      UInt16.toNat_ofNat_of_lt' (Nat.lt_trans inside.2.1 l.height.toNat_lt)
    have place : l.position? a = some (UInt16.ofNat x, UInt16.ofNat y) := by
      rw [position?_eq_some_iff, column, row]
      exact inside
    rw [place]
    exact congrArg some (Prod.ext column row)

theorem position?_eq_none_iff (l : Layout) (a : Address) :
    l.position? a = none ↔ ∀ x y : Nat, ¬ (x < l.width.toNat ∧ y < l.height.toNat ∧
      l.start.toNat + y * l.width.toNat + x = a.toNat) := by
  constructor
  · intro hidden x y inside
    have shown := (l.map_position? a x y).mpr inside
    rw [hidden] at shown
    cases shown
  · intro nowhere
    cases shown : l.position? a with
    | none => rfl
    | some place =>
      have inside := (l.map_position? a place.1.toNat place.2.toNat).mp (by rw [shown]; rfl)
      exact absurd inside (nowhere _ _)

theorem isSome_position? (l : Layout) (a : Address) :
    (l.position? a).isSome = decide (l.Within a) := by
  rw [position?_eq]
  split
  case isTrue inside => exact (decide_eq_true (l.within_iff.mpr inside)).symm
  case isFalse outside => exact (decide_eq_false (mt l.within_iff.mp outside)).symm

/-- How much of a stretch of numbers lies below a bound. -/
theorem countP_stretch (start stop bound : Nat) :
    (List.range bound).countP (fun n => decide (start ≤ n ∧ n < stop)) =
      min bound stop - start := by
  induction bound with
  | zero => simp
  | succ bound ih =>
    rw [List.range_succ, List.countP_append, ih, List.countP_singleton]
    simp only [decide_eq_true_eq]
    split <;> omega

/-- The window has a cell for each of its pixels, or for as many as there is memory left. -/
theorem count_position? (l : Layout) :
    (List.range 65536).countP (fun n => (l.position? (UInt16.ofNat n)).isSome) =
      min (l.width.toNat * l.height.toNat) (65536 - l.start.toNat) := by
  have start := l.start.toNat_lt
  have shown : (List.range 65536).countP (fun n => (l.position? (UInt16.ofNat n)).isSome) =
      (List.range 65536).countP fun n => decide
        (l.start.toNat ≤ n ∧ n < l.start.toNat + l.width.toNat * l.height.toNat) := by
    apply List.countP_congr
    intro n hn
    have address : (UInt16.ofNat n).toNat = n := UInt16.toNat_ofNat_of_lt' (List.mem_range.mp hn)
    rw [isSome_position?, decide_eq_true_eq, decide_eq_true_eq, Within, address]
  rw [shown, countP_stretch]
  omega

theorem color_lt (l : Layout) (b : Byte) : l.color b < max l.colors 1 := by
  have positive : 0 < max l.colors.toNat 1 := Nat.le_max_right _ _
  rw [UInt8.lt_iff_toNat_lt, color, UInt8.toNat_mod, toNat_most]
  exact Nat.mod_lt _ positive

/-- A device is only sent pixels that it can show. -/
theorem fits_of_mem_report {l : Layout} {a : Address} {b : Byte} {p : Pixel}
    (sent : p ∈ l.report a b) : l.Fits p := by
  rw [report_eq, Option.mem_toList, pixel?] at sent
  obtain ⟨⟨x, y⟩, place, rfl⟩ := Option.map_eq_some_iff.mp sent
  obtain ⟨column, row, -⟩ := (l.position?_eq_some_iff a x y).mp place
  exact ⟨UInt16.lt_iff_toNat_lt.mpr column, UInt16.lt_iff_toNat_lt.mpr row, l.color_lt b⟩

end Layout

namespace Memory

variable {δ : Type} [Host δ] {P : δ → Prop}

/-- Any memory under a layer with a layout and a device of some kind. -/
def Bears (layout : Layout) (P : δ → Prop) (memory : Memory δ) : Prop :=
  ∃ device source inner, memory = layered ⟨layout, device, source⟩ inner ∧ P device

/-- What a device keeps under all pixels that fit, it keeps under every access. -/
theorem kept_bears (layout : Layout)
    (survives : ∀ {device p}, layout.Fits p → P device → P (Host.draw device p)) :
    Bus.Kept (Bears layout P) where
  read := by
    intro memory h a
    obtain ⟨device, source, inner, rfl, fine⟩ := h
    change Bears layout P (read _ a).2
    rcases Layer.answer?_cases ⟨layout, device, source⟩ a with
      ⟨-, silent⟩ | ⟨-, -, drawn⟩ | ⟨-, -, told⟩
    · simp only [read, silent]
      exact ⟨device, source, _, rfl, fine⟩
    · simp only [read, drawn]
      exact ⟨device, _, inner, rfl, fine⟩
    · simp only [read, told]
      exact ⟨device, source, inner, rfl, fine⟩
  write := by
    intro memory h a b
    obtain ⟨device, source, inner, rfl, fine⟩ := h
    change Bears layout P (layered (Layer.watch _ a b) (inner.write a b))
    rw [watch_eq]
    refine ⟨_, source, _, rfl, ?_⟩
    have sent : ∀ p ∈ layout.report a b, layout.Fits p := fun _ => Layout.fits_of_mem_report
    dsimp only
    generalize layout.report a b = pixels at sent
    induction pixels generalizing device with
    | nil => exact fine
    | cons p pixels ih =>
      obtain ⟨here, rest⟩ := List.forall_mem_cons.mp sent
      exact ih (Host.draw device p) (survives here fine) rest
  peek := by
    intro memory h a
    obtain ⟨device, source, inner, rfl, fine⟩ := h
    exact ⟨device, source, _, rfl, fine⟩

end Memory

/-- A recorder that was sent nothing but fitting pixels. -/
def Device.Fitting (layout : Layout) (device : Device) : Prop :=
  ∃ pixels input, device = recorder pixels input ∧ ∀ p ∈ pixels, layout.Fits p

theorem Device.Fitting.draw {layout : Layout} {device : Device} (h : device.Fitting layout)
    {p : Pixel} (fits : layout.Fits p) : Device.Fitting layout (Host.draw device p) := by
  obtain ⟨pixels, input, rfl, sent⟩ := h
  refine ⟨pixels.push p, input, rfl, ?_⟩
  intro q hq
  rcases Array.mem_push.mp hq with before | rfl
  · exact sent q before
  · exact fits

/-- A cell shows the place in column `x` and row `y` just if it lies `y` full rows and `x` cells
behind the start, as plain numbers; no two cells show the same place, and there are as many as the
window has pixels or memory is left. Nothing overflows or is cut off on the way. Each pixel that a
device is sent lies inside the window and has a color of its palette, and so do all that a recorder
has noted after any commands. -/
theorem Layout.window_exact (l : Layout) :
    (∀ (a : Address) (x y : Nat),
        (l.position? a).map (fun (x, y) => (x.toNat, y.toNat)) = some (x, y) ↔
          x < l.width.toNat ∧ y < l.height.toNat ∧
            l.start.toNat + y * l.width.toNat + x = a.toNat) ∧
      (∀ a, l.position? a = none ↔ ∀ x y : Nat, ¬ (x < l.width.toNat ∧ y < l.height.toNat ∧
          l.start.toNat + y * l.width.toNat + x = a.toNat)) ∧
      (∀ a b p, l.position? a = some p → l.position? b = some p → a = b) ∧
      (∀ a, l.strictPosition? a = some (l.position? a)) ∧
      (List.range 65536).countP (fun n => (l.position? (UInt16.ofNat n)).isSome) =
        min (l.width.toNat * l.height.toNat) (65536 - l.start.toNat) ∧
      (∀ (δ : Type) [Host δ] (device : δ) (source : Random.Source) (inner : Memory δ)
        (a : Address) (b : Byte),
        (Memory.layered ⟨l, device, source⟩ inner).write a b =
            .layered ⟨l, (l.report a b).foldl Host.draw device, source⟩ (inner.write a b) ∧
          ∀ p ∈ l.report a b, l.Fits p) ∧
      ∀ (input : Byte) (source : Random.Source) (inner : Memory Device) (set : InstructionSet)
        (commands : List (Command Byte)),
        let start := Memory.layered ⟨l, .recorder #[] input, source⟩ inner
        let m := (Machine.new start set).obeyAll
          (fun code memory => memory.modifyDevice (·.setInput code)) commands
        ∃ pixels, m.core.seq.bus.outer?.bind (·.device.pixels?) = some pixels ∧
          ∀ p ∈ pixels, l.Fits p := by
  refine ⟨l.map_position?, l.position?_eq_none_iff, fun a b p => l.position?_injective,
    l.strictPosition?_eq, l.count_position?, ?_, ?_⟩
  · intro δ _ device source inner a b
    exact ⟨congrArg (Memory.layered · (inner.write a b)) (Memory.watch_eq _ a b),
      fun p => fits_of_mem_report⟩
  · intro input source inner set commands start m
    have blank : start.Bears l (Device.Fitting l) :=
      ⟨_, source, inner, rfl, #[], input, rfl, by simp⟩
    have now : m.core.seq.bus.Bears l (Device.Fitting l) := by
      refine Machine.obeyAll_kept (Memory.kept_bears l fun fits fine => fine.draw fits) ?_
        (m := .new start set) blank commands
      intro code memory h
      obtain ⟨device, source, inner, rfl, pixels, input, rfl, sent⟩ := h
      exact ⟨_, source, inner, rfl, pixels, code, rfl, sent⟩
    obtain ⟨device, source, inner, bus, pixels, input, rfl, sent⟩ := now
    refine ⟨pixels, ?_, sent⟩
    rw [bus]
    rfl

end Console6502
