import Console6502.Host.Device
import Console6502.Proofs.Commands
import Console6502.Proofs.Layers

namespace Console6502

/-- The cell that a command peeks at, if it does nothing else. -/
def Command.peeked? {κ : Type} : Command κ → Option Address
  | storage (.peek a) => some a
  | _ => none

namespace Memory

variable {δ : Type}

/-- No layer but the outermost has a register at an address. -/
def Bare (memory : Memory δ) (a : Address) : Prop := ∀ l ∈ memory.layouts.tail, l.IsPlain a

instance (memory : Memory δ) : DecidablePred memory.Bare :=
  fun a => List.decidableBAll (Layout.IsPlain · a) memory.layouts.tail

/-- The host does something to the device at some depth. -/
def actOn (act : Nat × (δ → δ)) (memory : Memory δ) : Memory δ := memory.touch act.1 act.2

variable [Host δ]

theorem read_of_plain_layers (memory : Memory δ) {a : Address}
    (plain : ∀ l ∈ memory.layouts, l.IsPlain a) : memory.read a = (memory.ram.get a, memory) := by
  induction memory with
  | plain ram => rfl
  | layered layer inner ih =>
    obtain ⟨here, below⟩ := List.forall_mem_cons.mp plain
    simp only [read, Layer.answer?_of_plain here, ih below, ram]

theorem peek_of_bare (memory : Memory δ) {a : Address} (bare : memory.Bare a) :
    memory.peek a = (memory.ram.get a, memory) := by
  cases memory with
  | plain ram => rfl
  | layered layer inner => simp only [peek, read_of_plain_layers inner bare, ram]

theorem peek_layouts (memory : Memory δ) (a : Address) :
    (memory.peek a).2.layouts = memory.layouts := by
  cases memory with
  | plain ram => rfl
  | layered layer inner => exact congrArg (layer.layout :: ·) (meet_layouts inner (.read a))

theorem kept_layouts (all : List Layout) : Bus.Kept fun memory : Memory δ => memory.layouts = all where
  read h a := (meet_layouts _ (.read a)).trans h
  write h a b := (meet_layouts _ (.write a b)).trans h
  peek h a := (peek_layouts _ a).trans h

end Memory

namespace Machine

variable {δ : Type} [Host δ]

theorem obey_peek (m : Machine (Memory δ)) {c : Command (Nat × (δ → δ))} {a : Address}
    (peeks : c.peeked? = some a) (bare : m.core.seq.bus.Bare a) : m.obey Memory.actOn c = m := by
  obtain ⟨⟨cpu, ⟨bus, pc, sp⟩⟩, set, halted, steps⟩ := m
  have left : (Bus.peek bus a).2 = bus := congrArg Prod.snd (bus.peek_of_bare bare)
  cases c with
  | storage operation =>
    cases operation with
    | peek other =>
      cases peeks
      simp only [obey, withSeq, Sequencer.apply, Sequencer.peek, left]
    | _ => cases peeks
  | _ => cases peeks

theorem obey_layouts (m : Machine (Memory δ)) (c : Command (Nat × (δ → δ))) :
    (m.obey Memory.actOn c).core.seq.bus.layouts = m.core.seq.bus.layouts :=
  obey_kept (Memory.kept_layouts _) (fun act _ h => (Memory.meet_layouts _ (.host act.1 act.2)).trans h)
    rfl c

/-- Where no inner layer has a register, a peek finds the byte of the cell and changes nothing, so
that a run may be peeked into as often as one likes. -/
theorem peek_harmless (m : Machine (Memory δ)) (commands : List (Command (Nat × (δ → δ))))
    (bare : ∀ c ∈ commands, ∀ a ∈ c.peeked?, m.core.seq.bus.Bare a) :
    (∀ a, m.core.seq.bus.Bare a →
      Bus.peek m.core.seq.bus a = (m.core.seq.bus.ram.get a, m.core.seq.bus) ∧
      m.core.seq.peek a = (m.core.seq.bus.ram.get a, m.core.seq) ∧
      m.peek a = (m.core.seq.bus.ram.get a, m)) ∧
    m.obeyAll Memory.actOn commands =
      m.obeyAll Memory.actOn (commands.filter (·.peeked?.isNone)) := by
  refine ⟨?_, ?_⟩
  · intro a here
    obtain ⟨⟨cpu, ⟨bus, pc, sp⟩⟩, set, halted, steps⟩ := m
    have found : Bus.peek bus a = (bus.ram.get a, bus) := bus.peek_of_bare here
    simp only [peek, Sequencer.peek, found, and_self]
  · induction commands generalizing m with
    | nil => rfl
    | cons c commands ih =>
      obtain ⟨here, later⟩ := List.forall_mem_cons.mp bare
      have later : ∀ d ∈ commands, ∀ a ∈ d.peeked?, (m.obey Memory.actOn c).core.seq.bus.Bare a := by
        simpa only [Memory.Bare, obey_layouts] using later
      change (m.obey Memory.actOn c).obeyAll Memory.actOn commands = _
      rw [ih _ later]
      cases peeks : c.peeked? with
      | none =>
        rw [List.filter_cons_of_pos (by simp [peeks])]
        rfl
      | some a =>
        rw [List.filter_cons_of_neg (by simp [peeks]), obey_peek m peeks (here a peeks)]

/-- Two layers with registers of their own, over a cell that is not blank. -/
def nested : Machine (Memory Device) :=
  let inner : Memory Device :=
    .layered ⟨{}, .null, .ofSeed 42⟩ (.plain (Ram.blank.set 0x00FE 0x11))
  .new (.layered ⟨{ random := 0x0010, input := 0x0011 }, .null, .ofSeed 7⟩ inner) .standard

/-- A peek at a register of the outer layer, ahead of a read. -/
def inspection : List (Command (Nat × (Device → Device))) :=
  [.storage (.peek 0x0010), .storage (.get 0x0010), .step]

theorem peek_harmless_outer :
    (∀ c ∈ inspection, ∀ a ∈ c.peeked?, nested.core.seq.bus.Bare a) ∧
      nested.obeyAll Memory.actOn inspection =
        nested.obeyAll Memory.actOn [.storage (.get 0x0010), .step] := by
  have register : nested.core.seq.bus.Bare 0x0010 := by decide
  have bare : ∀ c ∈ inspection, ∀ a ∈ c.peeked?, nested.core.seq.bus.Bare a := by
    simp [inspection, Command.peeked?, register]
  exact ⟨bare, (peek_harmless nested inspection bare).2⟩

/-- A peek at a register of the inner layer does not find the cell. It draws a random byte, so that
the next read gets another. -/
theorem peek_draws :
    nested.core.seq.bus.ram.get 0x00FE = 0x11 ∧ (nested.peek 0x00FE).1 = 0xA2 ∧
      (nested.core.seq.get 0x00FE).1 = 0xA2 ∧
      ((nested.peek 0x00FE).2.core.seq.get 0x00FE).1 = 0x63 := by
  decide +kernel

end Machine

end Console6502
