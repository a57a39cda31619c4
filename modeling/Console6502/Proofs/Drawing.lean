import Console6502.Proofs.Images
import Console6502.Proofs.Picture
import Console6502.Proofs.Stack

namespace Console6502

namespace Layout

/-- A cell of the display window. -/
def Within (l : Layout) (a : Address) : Prop :=
  l.start.toNat ≤ a.toNat ∧ a.toNat < l.start.toNat + l.width.toNat * l.height.toNat

instance (l : Layout) : DecidablePred l.Within := fun _ => instDecidableAnd

/-- No cell of the window is on the page of the stack. -/
def ClearOfStack (l : Layout) : Prop := ∀ a : Address, a.OnStack → ¬ l.Within a

/-- The pixels that accesses draw in a window, in order. -/
def drawn (l : Layout) (accesses : List Access) : List Pixel :=
  accesses.flatMap fun
    | .read _ => []
    | .write a b => l.report a b

theorem within_default (a : Address) : ({} : Layout).Within a ↔ 0x0200 ≤ a ∧ a ≤ 0x05FF := by
  simp only [Within, UInt16.le_iff_toNat_le, UInt16.reduceToNat]
  omega

theorem clear_default : ({} : Layout).ClearOfStack := by
  intro a stack within
  rw [within_default] at within
  simp only [Address.OnStack, UInt16.le_iff_toNat_le, UInt16.reduceToNat] at stack within
  omega

theorem within_iff (l : Layout) {a : Address} :
    l.Within a ↔ l.start.toNat ≤ a.toNat ∧
      a.toNat - l.start.toNat < l.width.toNat * l.height.toNat := by
  simp only [Within]
  omega

theorem length_report (l : Layout) (a : Address) (b : Byte) :
    (l.report a b).length = if l.Within a then 1 else 0 := by
  simp only [report, within_iff]
  split <;> rfl

/-- A pixel is drawn for each byte that is stored in the window. -/
theorem length_drawn (l : Layout) (accesses : List Access) :
    (l.drawn accesses).length =
      ((accesses.filterMap Access.write?).map Prod.fst).countP (decide <| l.Within ·) := by
  induction accesses with
  | nil => rfl
  | cons access accesses ih =>
    cases access with
    | read a => exact ih
    | write a b =>
      simp only [drawn, List.flatMap_cons, List.length_append, length_report] at ih ⊢
      simp only [ih, List.filterMap_cons, Access.write?, List.map_cons, List.countP_cons,
        decide_eq_true_eq]
      omega

end Layout

namespace Memory

variable {δ : Type} [Host δ]

theorem watch_eq (l : Layer δ) (a : Address) (b : Byte) :
    l.watch a b =
      { l with device := (l.layout.report a b).foldl Host.draw l.device } := by
  obtain ⟨layout, device, source⟩ := l
  simp only [Layout.report_eq]
  cases h : layout.pixel? a b with
  | none => simp [Layer.watch, h]
  | some p => simp [Layer.watch, h]

/-- Accesses reach plain memory through a layer, and its device is told what they draw. -/
theorem perform_layered (l : Layer δ) (ram : Ram) (accesses : List Access) :
    ∃ source, Bus.perform (layered l (plain ram)) accesses =
      layered ⟨l.layout, (l.layout.drawn accesses).foldl Host.draw l.device, source⟩
        (plain (Bus.perform ram accesses)) := by
  induction accesses generalizing l ram with
  | nil => exact ⟨l.source, rfl⟩
  | cons access accesses ih =>
    cases access with
    | read a =>
      obtain ⟨source, left⟩ := read_answers l ram a
      obtain ⟨last, rest⟩ := ih { l with source } ram
      refine ⟨last, ?_⟩
      rw [← left] at rest
      exact rest
    | write a b =>
      obtain ⟨last, rest⟩ := ih (l.watch a b) (ram.set a b)
      refine ⟨last, rest.trans ?_⟩
      simp only [watch_eq, Layout.drawn, List.flatMap_cons, List.foldl_append]
      rfl

end Memory

/-- Work that stores more than one byte stores them on the stack. -/
theorem Work.writes_few (w : Work) (operand : Operand) (cpu : Cpu) (pc : Address) (sp : Byte)
    (data : List Byte) :
    let cells := (w.outcome operand cpu pc sp data).writes.map Prod.fst
    cells.length ≤ 1 ∨ ∀ a ∈ cells, a.OnStack := by
  have stack (p : Byte) := Sequencer.stackCell_onStack p
  cases w with
  | call =>
    cases operand with
    | address a =>
      right
      simp [outcome, stack]
    | implied => simp [outcome]
    | immediate b => simp [outcome]
  | _ =>
    left
    cases operand <;> simp [outcome]

namespace Machine

variable {M : Type} [Bus M]

/-- A step that fails has read one cell and done no more. -/
theorem accesses_of_fault {m : Machine M} (failed : m.step.fault? ≠ none) :
    m.accesses = [.read m.core.seq.pc] := by
  cases h : m.next? with
  | none => simp only [accesses, h]
  | some i =>
    rw [step_of_some h] at failed
    exact absurd rfl failed

theorem length_drawn_le {layout : Layout} (clear : layout.ClearOfStack) (m : Machine M) :
    (layout.drawn m.accesses).length ≤ 1 := by
  cases h : m.next? with
  | none => simp [accesses, h, Layout.drawn]
  | some i =>
    have stored : m.accesses.filterMap Access.write? = (m.outcome i).writes := writes_eq h
    rw [Layout.length_drawn, stored]
    rcases i.mnemonic.work.writes_few (m.intake i).operand m.core.cpu (m.behind i) m.core.seq.sp
      (m.intake i).data with few | stack
    · exact Nat.le_trans List.countP_le_length few
    · have none : ((m.outcome i).writes.map Prod.fst).countP (decide <| layout.Within ·) = 0 := by
        rw [List.countP_eq_zero]
        intro a ha
        simpa using clear a (stack a ha)
      omega

end Machine

/-- A frame counts every pixel, those outside it as well. -/
theorem Frame.draw_writes (f : Frame) (p : Pixel) : (f.draw p).writes = f.writes + 1 := by
  simp only [draw]
  split <;> rfl

theorem Frame.foldl_draw_writes (f : Frame) (pixels : List Pixel) :
    (pixels.foldl draw f).writes = f.writes + pixels.length := by
  induction pixels generalizing f with
  | nil => rfl
  | cons p pixels ih =>
    rw [List.foldl_cons, ih, draw_writes, List.length_cons]
    omega

theorem Screen.frame_foldl (s : Screen) (pixels : List Pixel) :
    (pixels.foldl Host.draw s).frame = pixels.foldl Frame.draw s.frame := by
  induction pixels generalizing s with
  | nil => rfl
  | cons p pixels ih => exact ih (s.draw p)

theorem Screen.writes_foldl (s : Screen) (pixels : List Pixel) :
    (pixels.foldl Host.draw s).frame.writes = s.frame.writes + pixels.length := by
  rw [frame_foldl, Frame.foldl_draw_writes]

/-- Plain memory under a layer whose screen was sent so many pixels. -/
def Memory.Sent (layout : Layout) (count : Nat) (memory : Memory Screen) : Prop :=
  ∃ screen source ram, memory = layered ⟨layout, screen, source⟩ (plain ram) ∧
    screen.frame.writes = count

/-- The cells that a command stores to from outside, those of the stack apart. -/
def Command.stored {κ : Type} : Command κ → List Address
  | load image origin | storage (.load image origin) => origin.cells image.length
  | storage (.set a _) | storage (.setLow a _) => [a]
  | _ => []

/-- What an operation does to the bus, access by access. A peek is none. -/
def Sequencer.accesses {M : Type} (s : Sequencer M) : Operation → List Access
  | .get a => [.read a]
  | .set a b => [.write a b]
  | .setLow a w => [.write a w.low]
  | .load image origin => imageAccesses image origin
  | .next => [.read s.pc]
  | .push b => [.write (stackCell (s.sp - 1)) b]
  | .pull => [.read (stackCell s.sp)]
  | .call _ => [.write (stackCell (s.sp - 1)) s.pc.high, .write (stackCell (s.sp - 1 - 1)) s.pc.low]
  | .ret => [.read (stackCell s.sp), .read (stackCell (s.sp + 1))]
  | .peek _ | .jump _ | .branch _ _ | .setSp _ => []

section

variable {layout : Layout} {count : Nat}

theorem Layout.length_drawn_image (l : Layout) (image : List Byte) (origin : Address) :
    (l.drawn (imageAccesses image origin)).length =
      (origin.cells image.length).countP (decide <| l.Within ·) := by
  rw [length_drawn, imageAccesses, Access.writes_writes, imageWrites_fst]

theorem Memory.Sent.perform {memory : Memory Screen} (h : memory.Sent layout count)
    (accesses : List Access) :
    (Bus.perform memory accesses).Sent layout (count + (layout.drawn accesses).length) := by
  obtain ⟨screen, source, ram, rfl, sent⟩ := h
  obtain ⟨left, performed⟩ := perform_layered ⟨layout, screen, source⟩ ram accesses
  refine ⟨_, left, _, performed, ?_⟩
  rw [Screen.writes_foldl, sent]

theorem Memory.Sent.press {memory : Memory Screen} (h : memory.Sent layout count) (code : Byte) :
    (memory.press code).Sent layout count := by
  obtain ⟨screen, source, ram, rfl, sent⟩ := h
  exact ⟨screen.setInput code, source, ram, rfl, sent⟩

/-- Under a single layer a peek leaves the bus as it was. -/
theorem Sequencer.apply_accesses {s : Sequencer (Memory Screen)} (h : s.bus.Sent layout count)
    (operation : Operation) :
    (s.apply operation).bus = Bus.perform s.bus (s.accesses operation) := by
  cases operation with
  | peek a =>
    obtain ⟨screen, source, ram, flat, -⟩ := h
    obtain ⟨bus, pc, sp⟩ := s
    simp only at flat
    rw [flat]
    rfl
  | load image origin => exact s.load_bus image origin
  | branch condition a => cases condition <;> rfl
  | _ => rfl

theorem Sequencer.length_drawn_le (clear : layout.ClearOfStack) (s : Sequencer (Memory Screen))
    (operation : Operation) {κ : Type} :
    (layout.drawn (s.accesses operation)).length ≤
      (Command.storage operation : Command κ).stored.countP (decide <| layout.Within ·) := by
  have off (p : Byte) : ¬ layout.Within (stackCell p) := clear _ (stackCell_onStack p)
  cases operation with
  | load image origin =>
    rw [accesses, Layout.length_drawn_image]
    exact Nat.le_refl _
  | _ => simp [Layout.length_drawn, accesses, Command.stored, Access.write?, off]

namespace Machine

/-- Since the machine had taken `start` steps, its screen was sent no more pixels than steps were
taken, but for `extra` ones. -/
def Paid (layout : Layout) (start extra : Nat) (m : Machine (Memory Screen)) : Prop :=
  ∃ count, m.core.seq.bus.Sent layout count ∧ start + count ≤ m.steps + extra

variable {start extra : Nat} {m n : Machine (Memory Screen)}

/-- What accesses draw is paid for by steps, or else it comes on top. -/
theorem Paid.perform (h : m.Paid layout start extra) (accesses : List Access) (more : Nat)
    (bus : n.core.seq.bus = Bus.perform m.core.seq.bus accesses)
    (enough : m.steps + (layout.drawn accesses).length ≤ n.steps + more) :
    n.Paid layout start (extra + more) := by
  obtain ⟨count, sent, paid⟩ := h
  refine ⟨_, bus ▸ sent.perform accesses, ?_⟩
  omega

theorem Paid.step (clear : layout.ClearOfStack) (h : m.Paid layout start extra) :
    m.step.machine.Paid layout start extra := by
  have enough : m.steps + (layout.drawn m.accesses).length ≤ m.step.machine.steps := by
    by_cases ok : m.step.fault? = none
    · obtain ⟨counted, -⟩ := step_done ok
      have few := length_drawn_le clear m
      omega
    · rw [accesses_of_fault ok]
      exact m.steps_le_step
  exact h.perform m.accesses 0 (by rw [step_footprint, accesses_eq]) enough

theorem Paid.after (clear : layout.ClearOfStack) (h : m.Paid layout start extra) (k : Nat) :
    (m.after k).Paid layout start extra := by
  induction k with
  | zero => exact h
  | succ k ih => exact ih.step clear

theorem Paid.load (h : m.Paid layout start extra) (image : List Byte) (origin : Address) :
    (m.load image origin).Paid layout start
      (extra + (origin.cells image.length).countP (decide <| layout.Within ·)) := by
  apply h.perform (imageAccesses image origin) _ (m.core.seq.load_bus image origin)
  · rw [Layout.length_drawn_image]
    exact Nat.le_refl _

theorem Paid.obey (clear : layout.ClearOfStack) (h : m.Paid layout start extra)
    (command : Command Byte) :
    (m.obey Memory.press command).Paid layout start
      (extra + command.stored.countP (decide <| layout.Within ·)) := by
  cases command with
  | load image origin => exact h.load image origin
  | step => exact h.step clear
  | runFor budget =>
    obtain ⟨k, -, goes⟩ := runNoting_after (fun _ _ => ()) budget m ()
    change (runNoting _ budget m ()).machine.Paid layout start extra
    rw [goes]
    exact h.after clear k
  | adjust f => exact h
  | storage operation =>
    have known := h
    obtain ⟨count, sent, -⟩ := known
    apply h.perform _ _ (Sequencer.apply_accesses sent operation)
    exact Nat.add_le_add_left (Sequencer.length_drawn_le clear m.core.seq operation) m.steps
  | host code =>
    obtain ⟨count, sent, paid⟩ := h
    exact ⟨count, sent.press code, paid⟩

theorem Paid.obeyAll (clear : layout.ClearOfStack) (h : m.Paid layout start extra)
    (commands : List (Command Byte)) :
    (m.obeyAll Memory.press commands).Paid layout start
      (extra + (commands.flatMap Command.stored).countP (decide <| layout.Within ·)) := by
  induction commands generalizing m extra with
  | nil => exact h
  | cons command commands ih =>
    rw [List.flatMap_cons, List.countP_append, ← Nat.add_assoc]
    exact ih (h.obey clear command)

end Machine

end

namespace Machine

/-- A step tells the device of one pixel at most, and of none if it fails. So the screen of a
machine is sent no more pixels than steps are taken and bytes stored in its window from outside,
whatever is done to the machine, if the window is off the stack, as it is by default. -/
theorem writes_le_steps (m : Machine Ram) (layout : Layout) (clear : layout.ClearOfStack) :
    ({} : Layout).ClearOfStack ∧
      (∀ (δ : Type) [Host δ] (device : δ) (source : Random.Source),
        let n := m.under ⟨layout, device, source⟩
        let pixels := layout.drawn n.accesses
        n.step.machine.core.seq.bus.outer?.map Layer.device =
            some (pixels.foldl Host.draw device) ∧
          pixels.length ≤ 1 ∧ (n.step.fault? ≠ none → pixels = [])) ∧
      ∀ (width height : UInt16) (input : Byte) (source : Random.Source)
        (commands : List (Command Byte)),
        let now := (m.under ⟨layout, Screen.blank width height input, source⟩).obeyAll
          Memory.press commands
        ∃ screen, now.core.seq.bus.outer?.map Layer.device = some screen ∧
          m.steps + screen.frame.writes ≤
            now.steps + (commands.flatMap Command.stored).countP (decide <| layout.Within ·) := by
  refine ⟨Layout.clear_default, ?_, ?_⟩
  · intro δ _ device source n pixels
    refine ⟨?_, length_drawn_le clear n, ?_⟩
    · obtain ⟨left, performed⟩ :=
        Memory.perform_layered ⟨layout, device, source⟩ m.core.seq.bus n.accesses
      rw [step_footprint, ← accesses_eq]
      exact congrArg (fun memory => memory.outer?.map Layer.device) performed
    · intro failed
      simp only [pixels, accesses_of_fault failed]
      rfl
  · intro width height input source commands now
    have fresh : (m.under ⟨layout, .blank width height input, source⟩).Paid layout m.steps 0 :=
      ⟨0, ⟨.blank width height input, source, m.core.seq.bus, rfl, rfl⟩, Nat.le_refl _⟩
    obtain ⟨count, ⟨screen, source, ram, bus, sent⟩, paid⟩ := fresh.obeyAll clear commands
    refine ⟨screen, ?_, ?_⟩
    · simp only [now, bus]
      rfl
    · simp only [now]
      omega

/-- An image over the end of the window, whose program draws a pixel of its own and then meets an
unknown opcode. -/
theorem writes_le_steps_loads :
    let commands : List (Command Byte) :=
      [.load [0x85, 0x10, 0x8D, 0x00, 0x02, 0x02] 0x05FE, .runFor 9]
    let now := ((holding [] programOrigin).under ⟨{}, Screen.blank 32 32 0, .ofSeed 1⟩).obeyAll
      Memory.press commands
    ({} : Layout).ClearOfStack ∧
      ∃ screen, now.core.seq.bus.outer?.map Layer.device = some screen ∧
        screen.frame.writes ≤ 2 + 2 := by
  intro commands now
  obtain ⟨clear, -, bound⟩ := writes_le_steps (holding [] programOrigin) {} Layout.clear_default
  obtain ⟨screen, shown, paid⟩ := bound 32 32 0 (.ofSeed 1) commands
  have started : (holding [] programOrigin).steps = 0 := rfl
  have taken : now.steps = 2 := by decide +kernel
  have stored :
      (commands.flatMap Command.stored).countP (decide <| ({} : Layout).Within ·) = 2 := by
    decide +kernel
  refine ⟨clear, screen, shown, ?_⟩
  simp only [started, stored] at paid
  simp only [now] at taken
  omega

end Machine

end Console6502
