import Console6502.Proofs.Digits
import Console6502.Proofs.Drawing
import Console6502.Proofs.Frames
import Console6502.Proofs.Rendering
import Console6502.Proofs.Stranded
import Console6502.Runner.Report

namespace Console6502

open Text (Hexadecimal hexAddress hexByte hexadecimal_address hexadecimal_byte)

namespace Runner

/-- The standard memory, under a blank screen whose latch holds a key code. -/
def blankMemory (input : Byte) (seed : UInt64) : Memory Screen :=
  .layered ⟨{}, Screen.blank 32 32 input, .ofSeed seed⟩ (.plain .blank)

/-- The standard machine with an image in it. -/
def reference (input : Byte) (seed : UInt64) (image : List Byte) (origin : Address) :
    Machine (Memory Screen) :=
  (Machine.new (blankMemory input seed) .standard).load image origin

/-- The default window of a machine as text, from what a peek finds there: a line for each row, and
one of sixteen characters for each cell. -/
def picture (m : Machine (Memory Screen)) : String :=
  Frame.grid 32 32 fun x y =>
    " #%&*+=-:o@OX$~.".toList.getD
      ((m.peek (UInt16.ofNat (0x0200 + (32 * y + x)))).1.toNat % 16) ' '

/-- All that is said of a machine that has come to an end. -/
inductive Summary (ending : String) (count : Nat) (m : Machine (Memory Screen)) (pixels : Nat)
    (screen : String) : String → Prop
  | mk {pc sp a x y : String} (pc_digits : Hexadecimal 4 m.core.seq.pc.toNat pc)
      (sp_digits : Hexadecimal 2 m.core.seq.sp.toNat sp)
      (a_digits : Hexadecimal 2 m.core.cpu.a.toNat a)
      (x_digits : Hexadecimal 2 m.core.cpu.x.toNat x)
      (y_digits : Hexadecimal 2 m.core.cpu.y.toNat y) :
      Summary ending count m pixels screen
        (s!"{ending} after {count} instructions\nPC:{pc} SP:{sp} A:{a} X:{x} Y:{y} " ++
          s!"C:{m.core.cpu.carry.toNat} Z:{m.core.cpu.zero.toNat} N:{m.core.cpu.negative.toNat}\n" ++
          s!"pixel writes: {pixels}\n{screen}")

theorem report_line (ending pc sp a x y screen : String) (count c z n pixels : Nat) :
    (let pointers := s!"PC:{pc} SP:{sp}"
      let registers := s!"A:{a} X:{x} Y:{y}"
      let flags := s!"C:{c} Z:{z} N:{n}"
      s!"{ending} after {count} instructions\n{pointers} {registers} {flags}\n" ++
        s!"pixel writes: {pixels}\n" ++ screen) =
      s!"{ending} after {count} instructions\nPC:{pc} SP:{sp} A:{a} X:{x} Y:{y} " ++
        s!"C:{c} Z:{z} N:{n}\n" ++ s!"pixel writes: {pixels}\n{screen}" := by
  apply String.toList_inj.mp
  simp [toString]

theorem summary_iff {ending screen text : String} {count pixels : Nat}
    {m : Machine (Memory Screen)} :
    Summary ending count m pixels screen text ↔
      let cpu := m.core.cpu
      let pointers := s!"PC:{hexAddress m.core.seq.pc} SP:{hexByte m.core.seq.sp}"
      let registers := s!"A:{hexByte cpu.a} X:{hexByte cpu.x} Y:{hexByte cpu.y}"
      let flags := s!"C:{cpu.carry.toNat} Z:{cpu.zero.toNat} N:{cpu.negative.toNat}"
      text = s!"{ending} after {count} instructions\n{pointers} {registers} {flags}\n" ++
        s!"pixel writes: {pixels}\n" ++ screen := by
  dsimp only
  rw [report_line]
  constructor
  · rintro ⟨pc, sp, a, x, y⟩
    rw [hexadecimal_address] at pc
    rw [hexadecimal_byte] at sp a x y
    subst pc sp a x y
    rfl
  · rintro rfl
    exact .mk (hexadecimal_address.mpr rfl) (hexadecimal_byte.mpr rfl) (hexadecimal_byte.mpr rfl)
      (hexadecimal_byte.mpr rfl) (hexadecimal_byte.mpr rfl)

/-- What is said of a run that met an unknown opcode. It stands behind that opcode. -/
inductive Complaint (opcode : Byte) (pc : Address) : String → Prop
  | mk {behind byte place : String} (behind_digits : Hexadecimal 4 ((pc.toNat + 1) % 65536) behind)
      (byte_digits : Hexadecimal 2 opcode.toNat byte) (digits : Hexadecimal 4 pc.toNat place) :
      Complaint opcode pc
        (s!"Error: execution stopped at PC 0x{behind}\n\nCaused by:\n" ++
          s!"    unknown opcode 0x{byte} at 0x{place}\n")

theorem frame_of_sent {m : Machine (Memory Screen)} {layout : Layout} {count : Nat}
    (sent : m.core.seq.bus.Sent layout count) : (frame m).writes = count := by
  obtain ⟨screen, source, ram, bus, writes⟩ := sent
  simp only [frame, bus]
  exact writes

theorem glyph_color (b : Byte) :
    Frame.glyph (({} : Layout).color b) = " #%&*+=-:o@OX$~.".toList.getD (b.toNat % 16) ' ' := by
  have index : (({} : Layout).color b).toNat % 16 = b.toNat % 16 := by
    have colors : max ({} : Layout).colors 1 = 16 := by decide
    rw [Layout.color, colors, UInt8.toNat_mod]
    exact Nat.mod_mod _ _
  have glyph := Frame.glyph_eq (({} : Layout).color b)
  rw [index] at glyph
  rw [List.getD_eq_getElem?_getD, glyph]
  rfl

/-- The screen shows the window as it is in memory. -/
theorem render_of_pictured {m : Machine (Memory Screen)}
    (pictured : m.core.seq.bus.Pictured {} 32 32) : (frame m).render = picture m := by
  obtain ⟨⟨cpu, ⟨bus, pc, sp⟩⟩, set, halted, steps⟩ := m
  obtain ⟨screen, source, ram, rfl, shows⟩ := pictured
  have columns : screen.frame.width.toNat = 32 := by
    rw [shows.columns]
    rfl
  have rows : screen.frame.height.toNat = 32 := by
    rw [shows.rows]
    rfl
  have wide : screen.frame.width ≠ 0 := by
    rw [shows.columns]
    decide
  change screen.frame.render = _
  rw [Frame.render_eq wide
    (fun x y => ({} : Layout).color (ram.get (UInt16.ofNat (0x0200 + (32 * y + x)))))]
  · rw [columns, rows]
    apply Frame.grid_congr
    intro x _ y _
    exact glyph_color _
  · intro x hx y hy
    rw [columns] at hx
    rw [rows] at hy
    have column : (UInt16.ofNat x).toNat = x := by
      rw [UInt16.toNat_ofNat']
      omega
    have row : (UInt16.ofNat y).toNat = y := by
      rw [UInt16.toNat_ofNat']
      omega
    have cell : (UInt16.ofNat (0x0200 + (32 * y + x))).toNat = 0x0200 + (32 * y + x) := by
      rw [UInt16.toNat_ofNat']
      omega
    apply shows.cell
    · rw [Layout.position?_eq_some_iff, column, row, cell, Nat.mul_comm]
      exact ⟨hx, hy, rfl⟩
    · rw [UInt16.lt_iff_toNat_lt, UInt16.lt_iff_toNat_lt, column, row]
      exact ⟨hx, hy⟩

section

variable (input : Byte) (seed : UInt64) (image : List Byte) (origin : Address) (k : Nat)

/-- The cells that are stored to when an image is loaded and `k` steps are taken. -/
def stored : List Address :=
  origin.cells image.length ++
    (((reference input seed image origin).traffic k).filterMap Access.write?).map Prod.fst

theorem reference_bus :
    (reference input seed image origin).core.seq.bus =
      Bus.perform (blankMemory input seed) (imageAccesses image origin) :=
  Sequencer.load_bus _ image origin

/-- The screen was sent a pixel for each byte that was stored in its window. -/
theorem writes_after :
    (frame ((reference input seed image origin).after k)).writes =
      (stored input seed image origin k).countP fun a => 0x0200 ≤ a ∧ a ≤ 0x05FF := by
  have fresh : (blankMemory input seed).Sent {} 0 := ⟨_, _, _, rfl, rfl⟩
  have sent := (fresh.perform (imageAccesses image origin)).perform
    ((reference input seed image origin).traffic k)
  rw [← reference_bus, ← Machine.after_traffic] at sent
  rw [frame_of_sent sent, Layout.length_drawn_image, Layout.length_drawn, Nat.zero_add, stored,
    List.countP_append]
  simp only [Layout.within_default]

theorem pictured_after :
    ((reference input seed image origin).after k).core.seq.bus.Pictured {} 32 32 := by
  have fresh : (blankMemory input seed).Pictured {} 32 32 := ⟨_, _, _, rfl, .blank {} 32 32⟩
  rw [Machine.after_traffic, reference_bus]
  exact Memory.kept_pictured.perform _ (Memory.kept_pictured.perform _ fresh)

/-- What is said of a machine that has taken `k` steps. -/
theorem report_after (showScreen : Bool) {left : Machine (Memory Screen)}
    (stands : (reference input seed image origin).after k = left) :
    Summary (if left.halted then "halted" else "step limit reached") k left
      ((stored input seed image origin k).countP fun a => 0x0200 ≤ a ∧ a ≤ 0x05FF)
      (if showScreen then picture left else "") (report left k showScreen) := by
  subst stands
  apply summary_iff.mpr
  unfold report
  rw [writes_after, render_of_pictured (pictured_after input seed image origin k)]

end

theorem complaint_line (behind byte place : String) :
    (let context := s!"execution stopped at PC 0x{behind}"
      let cause := s!"unknown opcode 0x{byte} at 0x{place}"
      s!"Error: {context}\n\nCaused by:\n    {cause}\n") =
      s!"Error: execution stopped at PC 0x{behind}\n\nCaused by:\n" ++
        s!"    unknown opcode 0x{byte} at 0x{place}\n" := by
  apply String.toList_inj.mp
  simp [toString]

theorem complaint_text (opcode : Byte) (pc : Address) :
    Complaint opcode pc (Failure.stopped (pc + 1) (.unknownOpcode opcode pc)).text := by
  have behind := hexadecimal_address.mpr (rfl : Text.hexAddress (pc + 1) = _)
  rw [UInt16.toNat_add] at behind
  have line : (Failure.stopped (pc + 1) (.unknownOpcode opcode pc)).text = _ :=
    complaint_line _ _ _
  rw [line]
  exact .mk behind (hexadecimal_byte.mpr rfl) (hexadecimal_address.mpr rfl)

/-- An image that is not empty is run, and the runner ends as the run does. -/
theorem outcome_eq (o : Options) {image : List Byte} (full : image ≠ []) (entropy : UInt64)
    {result : Except Fault Nat} {left : Machine (Memory Screen)}
    (run : (reference (o.input?.getD 0) (o.seed?.getD entropy) image o.origin).runFor
      o.maxSteps.toNat = (result, left)) :
    outcome o (.ok image) entropy =
      match result with
      | .error fault => { exit := 1, stderr := (Failure.stopped left.core.seq.pc fault).text }
      | .ok k => { exit := 0, stdout := report left k o.showScreen } := by
  have some : image.isEmpty = false := List.isEmpty_eq_false_iff.mpr full
  have same : (console (o.input?.getD noInput) (o.seed?.getD entropy)).load image o.origin =
      reference (o.input?.getD 0) (o.seed?.getD entropy) image o.origin := rfl
  simp only [outcome, execute, some, same, run]
  cases result <;> rfl

/-- What the runner says of an image is what a run of the standard machine comes to. It ends well
just if the run gives a count, and says then how the run ended, what the registers, flags and
pointers are, how many bytes were stored in the window, and on demand what the window holds. It
fails just if the run meets an unknown opcode, and says then where the run stands behind it. -/
theorem outcome_reports (o : Options) (image : List Byte) (full : image ≠ []) (entropy : UInt64) :
    let input := o.input?.getD 0
    let seed := o.seed?.getD entropy
    let start := reference input seed image o.origin
    let result := (start.runFor o.maxSteps.toNat).1
    let left := (start.runFor o.maxSteps.toNat).2
    let out := outcome o (.ok image) entropy
    (∀ here arguments, Request.parse arguments = .ok (.run o) →
        here.read o.program = .ok image → run here arguments entropy = out) ∧
      (out.exit = 0 ↔ ∃ k, result = .ok k) ∧
      (out.exit = 1 ∧ out.stdout = "" ↔ ∃ opcode pc, result = .error (.unknownOpcode opcode pc)) ∧
      (∀ k, result = .ok k →
        let pixels := (stored input seed image o.origin k).countP fun a => 0x0200 ≤ a ∧ a ≤ 0x05FF
        let screen := if o.showScreen then picture left else ""
        (start.EndsInBrk k → Summary "halted" k left pixels screen out.stdout) ∧
          (¬ start.EndsInBrk k → k = o.maxSteps.toNat ∧
            Summary "step limit reached" k left pixels screen out.stdout)) ∧
      ∀ opcode pc, result = .error (.unknownOpcode opcode pc) →
        Complaint opcode pc out.stderr := by
  intro input seed start result left out
  refine ⟨?_, ?_⟩
  · intro here arguments parsed read
    rw [run, parsed]
    simp only [read]
    rfl
  rcases start.runFor_cases o.maxSteps.toNat with
    ⟨k, run, good, spent⟩ | ⟨k, opcode, pc, run, stranded⟩
  · have counted : result = .ok k := congrArg Prod.fst run
    have stands : left = start.after k := congrArg Prod.snd run
    have said : out = { exit := 0, stdout := report left k o.showScreen } := by
      rw [stands]
      exact outcome_eq o full entropy run
    clear_value left
    subst stands
    have halted : (start.after k).halted = true ↔ start.EndsInBrk k :=
      Machine.halted_after_clear good rfl
    have stands : (reference input seed image o.origin).after k = start.after k := rfl
    have summary := report_after input seed image o.origin k o.showScreen stands
    rw [said, counted]
    refine ⟨by simp, by simp, ?_, by simp⟩
    intro k' same pixels screen
    cases same
    constructor
    · intro brk
      rwa [if_pos (halted.mpr brk)] at summary
    · intro goes
      rw [if_neg (mt halted.mp goes)] at summary
      exact ⟨spent goes, summary⟩
  · have failed : result = .error (.unknownOpcode opcode pc) := congrArg Prod.fst run
    have said : out = { exit := 1, stderr :=
        (Failure.stopped (pc + 1) (.unknownOpcode opcode pc)).text } := by
      rw [← stranded.pc_left]
      exact outcome_eq o full entropy run
    rw [said, failed]
    refine ⟨by simp, by simp, by simp, ?_⟩
    intro opcode' pc' same
    cases same
    exact complaint_text opcode pc

/-- A program that stores one byte at the start of the window and halts. -/
theorem outcome_reports_store :
    let o : Options :=
      { program := "store.bin", maxSteps := 5, seed? := some 7, showScreen := true }
    let image : List Byte := [0xA9, 0x05, 0x8D, 0x00, 0x02, 0x00]
    let left := ((reference 0 7 image o.origin).runFor 5).2
    image ≠ [] ∧ (outcome o (.ok image) 0).exit = 0 ∧
      (outcome o (.ok image) 0).stdout =
        "halted after 3 instructions\nPC:0606 SP:FF A:05 X:00 Y:00 C:0 Z:0 N:0\n" ++
          "pixel writes: 1\n" ++ picture left := by
  intro o image left
  have full : image ≠ [] := List.cons_ne_nil _ _
  obtain ⟨-, exits, -, ending, -⟩ := outcome_reports o image full 0
  have halts : (reference 0 7 image o.origin).HaltsAt 2 := by
    refine ⟨?_, ?_, ?_⟩
    · unfold Machine.Smooth Machine.GoesOn
      decide +kernel
    · decide +kernel
    · unfold Machine.AtBrk
      decide +kernel
  have run := (halts.runFor (by decide : 2 < 5)).1
  have counted : ((reference 0 7 image o.origin).runFor 5).1 = .ok 3 := congrArg Prod.fst run
  have stands := congrArg Prod.snd run
  have pixels : ((stored 0 7 image o.origin 3).countP fun a => 0x0200 ≤ a ∧ a ≤ 0x05FF) = 1 := by
    decide +kernel
  have final : left.core.seq.pc = 0x0606 ∧ left.core.seq.sp = 0xFF ∧ left.core.cpu = { a := 5 } := by
    dsimp only [left]
    rw [stands]
    decide +kernel
  have said : Summary "halted" 3 left 1 (picture left) (outcome o (.ok image) 0).stdout := by
    have said := (ending 3 counted).1 halts.endsInBrk
    rw [← pixels]
    exact said
  refine ⟨full, exits.mpr ⟨3, counted⟩, ?_⟩
  rw [summary_iff.mp said, final.1, final.2.1, final.2.2]
  exact congrArg (· ++ picture left) (by decide)

end Runner

end Console6502
