import Console6502.Host.Device
import Console6502.Memory
import Console6502.Proofs.Lockstep

namespace Console6502

/-- An address at which a layout has no register. -/
def Layout.IsPlain (l : Layout) (a : Address) : Prop := a ≠ l.random ∧ a ≠ l.input

instance (l : Layout) : DecidablePred l.IsPlain := fun _ => instDecidableAnd

namespace Layer

variable {δ : Type} [Host δ]

theorem answer?_of_plain {l : Layer δ} {a : Address} (plain : l.layout.IsPlain a) :
    l.answer? a = none := by
  rw [answer?, if_neg plain.1, if_neg plain.2]

theorem answer?_of_random {l : Layer δ} {a : Address} (random : a = l.layout.random) :
    l.answer? a = some (l.source.stream l.source.drawn, { l with source := l.source.next.2 }) := by
  rw [answer?, if_pos random]
  rfl

/-- The three ways a layer meets a read: it keeps silent, draws a byte or tells the last input. -/
theorem answer?_cases (l : Layer δ) (a : Address) :
    (l.layout.IsPlain a ∧ l.answer? a = none) ∨
      (a = l.layout.random ∧ ¬ l.layout.IsPlain a ∧
        l.answer? a =
          some (l.source.stream l.source.drawn, { l with source := l.source.next.2 })) ∨
      (a ≠ l.layout.random ∧ ¬ l.layout.IsPlain a ∧
        l.answer? a = some (Host.lastInput l.device, l)) := by
  by_cases random : a = l.layout.random
  · exact .inr (.inl ⟨random, fun plain => plain.1 random, answer?_of_random random⟩)
  · by_cases input : a = l.layout.input
    · refine .inr (.inr ⟨random, fun plain => plain.2 input, ?_⟩)
      rw [answer?, if_neg random, if_pos input]
    · exact .inl ⟨⟨random, input⟩, answer?_of_plain ⟨random, input⟩⟩

end Layer

namespace Memory

variable {δ : Type}

/-- Plain memory under one layer, of which all but the device is known. -/
def Covers (layout : Layout) (source : Random.Source) (ram : Ram) (memory : Memory δ) : Prop :=
  ∃ device, memory = layered ⟨layout, device, source⟩ (plain ram)

theorem covers_modifyDevice {layout : Layout} {source : Random.Source} {ram : Ram}
    {memory : Memory δ} (h : Covers layout source ram memory) (f : δ → δ) :
    Covers layout source ram (memory.modifyDevice f) := by
  obtain ⟨device, rfl⟩ := h
  exact ⟨f device, rfl⟩

variable [Host δ]

theorem read_of_plain (l : Layer δ) (ram : Ram) {a : Address} (h : l.layout.IsPlain a) :
    Bus.read (layered l (plain ram)) a = (ram.get a, layered l (plain ram)) := by
  change Memory.read (layered l (plain ram)) a = _
  simp only [Memory.read, Layer.answer?_of_plain h]

theorem watch_covers (l : Layer δ) (a : Address) (b : Byte) :
    ∃ device, l.watch a b = ⟨l.layout, device, l.source⟩ := by
  obtain ⟨layout, device, source⟩ := l
  cases h : layout.pixel? a b with
  | none => exact ⟨device, by simp only [Layer.watch, h]⟩
  | some p => exact ⟨Host.draw device p, by simp only [Layer.watch, h]⟩

/-- But for its registers, covered memory is a mirror of plain memory. -/
theorem mirror_covers (layout : Layout) (source : Random.Source) :
    Bus.Mirror (Covers (δ := δ) layout source) layout.IsPlain where
  read := by
    rintro ram _ ⟨device, rfl⟩ a ha
    rw [read_of_plain _ ram ha]
    exact ⟨rfl, device, rfl⟩
  write := by
    rintro ram _ ⟨device, rfl⟩ a b
    obtain ⟨drawn, watched⟩ := watch_covers ⟨layout, device, source⟩ a b
    exact ⟨drawn, congrArg (layered · (plain (ram.set a b))) watched⟩

end Memory

section

variable {L M N : Type} [Bus L] [Bus M] [Bus N]

/-- All that can be looked at is the same. -/
structure Machine.Alike (m : Machine M) (n : Machine N) : Prop where
  cpu : m.core.cpu = n.core.cpu
  pc : m.core.seq.pc = n.core.seq.pc
  sp : m.core.seq.sp = n.core.seq.sp
  halted : m.halted = n.halted
  steps : m.steps = n.steps
  peek : ∀ a, (Bus.peek m.core.seq.bus a).1 = (Bus.peek n.core.seq.bus a).1

/-- Steps that come to the same, are noted alike and leave machines alike. -/
structure Step.Alike (s : Step M) (t : Step N) : Prop where
  fault? : s.fault? = t.fault?
  records : s.records = t.records
  machine : s.machine.Alike t.machine

theorem Machine.Alike.symm {m : Machine M} {n : Machine N} (h : m.Alike n) : n.Alike m :=
  ⟨h.cpu.symm, h.pc.symm, h.sp.symm, h.halted.symm, h.steps.symm, fun a => (h.peek a).symm⟩

theorem Machine.Alike.trans {l : Machine L} {m : Machine M} {n : Machine N} (h : l.Alike m)
    (h' : m.Alike n) : l.Alike n :=
  ⟨h.cpu.trans h'.cpu, h.pc.trans h'.pc, h.sp.trans h'.sp, h.halted.trans h'.halted,
    h.steps.trans h'.steps, fun a => (h.peek a).trans (h'.peek a)⟩

theorem Step.Alike.symm {s : Step M} {t : Step N} (h : s.Alike t) : t.Alike s :=
  ⟨h.fault?.symm, h.records.symm, h.machine.symm⟩

theorem Step.Alike.trans {r : Step L} {s : Step M} {t : Step N} (h : r.Alike s) (h' : s.Alike t) :
    r.Alike t :=
  ⟨h.fault?.trans h'.fault?, h.records.trans h'.records, h.machine.trans h'.machine⟩

end

namespace Machine

/-- None of the first `n` steps reads a register of a layout. -/
def Quiet (m : Machine Ram) (layout : Layout) (n : Nat) : Prop :=
  ∀ k < n, ∀ a ∈ (m.after k).reads, layout.IsPlain a

instance (m : Machine Ram) (layout : Layout) (n : Nat) : Decidable (m.Quiet layout n) :=
  @Nat.decidableBallLT n _ fun k _ => List.decidableBAll layout.IsPlain (m.after k).reads

variable {δ : Type}

/-- The same machine with a layer over its memory. -/
def under (m : Machine Ram) (l : Layer δ) : Machine (Memory δ) :=
  match m with
  | ⟨⟨cpu, ⟨ram, pc, sp⟩⟩, set, halted, steps⟩ =>
    ⟨⟨cpu, ⟨.layered l (.plain ram), pc, sp⟩⟩, set, halted, steps⟩

variable [Host δ]

/-- The machine after so many steps, when the host does something to its device ahead of each. -/
def hosted (m : Machine (Memory δ)) (acts : Nat → δ → δ) : Nat → Machine (Memory δ) :=
  m.amid fun k => Memory.modifyDevice (acts k)

theorem alike_of_paired {layout : Layout} {source : Random.Source} {m : Machine Ram}
    {n : Machine (Memory δ)} (h : m.Paired (Memory.Covers layout source) n) : m.Alike n := by
  obtain ⟨device, bus⟩ := h.bus
  refine ⟨h.cpu, h.pc, h.sp, h.halted, h.steps, fun a => ?_⟩
  rw [bus]
  rfl

/-- Under a layer, a quiet run goes on as without it, whatever the host does meanwhile. -/
theorem hosted_paired (m : Machine Ram) (l : Layer δ) (acts : Nat → δ → δ) {n : Nat}
    (quiet : m.Quiet l.layout n) {k : Nat} (hk : k ≤ n) :
    (m.after k).Paired (Memory.Covers l.layout l.source) ((m.under l).hosted acts k) :=
  amid_paired (Memory.mirror_covers l.layout l.source)
    ⟨rfl, ⟨l.device, rfl⟩, rfl, rfl, rfl, rfl, rfl⟩
    (fun k => fun h => Memory.covers_modifyDevice h (acts k)) k
    fun j hj => quiet j (Nat.lt_of_lt_of_le hj hk)

theorem hosted_nothing (m : Machine (Memory δ)) (k : Nat) :
    m.hosted (fun _ device => device) k = m.after k := by
  have nothing : (Memory.modifyDevice fun device : δ => device) = fun memory => memory := by
    funext memory
    cases memory <;> rfl
  rw [hosted, nothing, amid_nothing]

/-- Each step of a quiet run is alike under a layer, and the random source stays where it was. -/
theorem hosted_step (m : Machine Ram) (l : Layer δ) (acts : Nat → δ → δ) {n : Nat}
    (quiet : m.Quiet l.layout n) {k : Nat} (hk : k < n) :
    (m.after k).step.Alike ((m.under l).hosted acts k).step ∧
      ((m.under l).hosted acts k).step.machine.core.seq.bus.outer?.map Layer.source =
        some l.source := by
  have before := m.hosted_paired l acts quiet (Nat.le_of_lt hk)
  obtain ⟨fault, records, paired⟩ :=
    step_paired (Memory.mirror_covers l.layout l.source) before (quiet k hk)
  refine ⟨⟨fault, records, alike_of_paired paired⟩, ?_⟩
  obtain ⟨device, bus⟩ := paired.bus
  rw [bus]
  rfl

/-- A run that reads no register of a layout goes step by step as without the layer and draws no
random byte. What is more, it goes the same with any other device and source, whatever the host does
to that device between the steps. -/
theorem after_under (m : Machine Ram) (l : Layer δ) (n : Nat) (quiet : m.Quiet l.layout n) (k : Nat)
    (hk : k < n) :
    (m.after k).step.Alike ((m.under l).after k).step ∧
      ((m.under l).after (k + 1)).core.seq.bus.outer?.map Layer.source = some l.source ∧
      ∀ (ε : Type) [Host ε] (other : Layer ε) (acts : Nat → ε → ε), other.layout = l.layout →
        ((m.under l).after k).step.Alike ((m.under other).hosted acts k).step := by
  obtain ⟨alike, source⟩ := m.hosted_step l (fun _ device => device) quiet hk
  rw [hosted_nothing] at alike source
  refine ⟨alike, source, ?_⟩
  intro ε _ other acts same
  rw [← same] at quiet
  exact alike.symm.trans (m.hosted_step other acts quiet hk).1

/-- A program that stores to the random register and then draws a pixel. -/
theorem after_under_stores :
    (holding [0xA9, 0x07, 0x85, 0xFE, 0x8D, 0x00, 0x02] programOrigin).Quiet {} 3 ∧
      ((holding [0xA9, 0x07, 0x85, 0xFE, 0x8D, 0x00, 0x02] programOrigin).after 2).step.Alike
        (((holding [0xA9, 0x07, 0x85, 0xFE, 0x8D, 0x00, 0x02] programOrigin).under
          ⟨{}, Device.recorder #[] 0x41, .ofSeed 1⟩).after 2).step :=
  ⟨by decide +kernel, (after_under _ _ 3 (by decide +kernel) 2 (by decide)).1⟩

end Machine

end Console6502
