import Console6502.Proofs.Peeks

namespace Console6502

/-- A byte on the stack: one of its own, or a half of the address that a call saved. -/
inductive Stack.Entry
  | byte (b : Byte)
  | low (saved : Address)
  | high (saved : Address)
deriving DecidableEq

def Stack.Entry.value : Entry → Byte
  | byte b => b
  | low saved => saved.low
  | high saved => saved.high

/-- What a program knows of the program counter and of a stack that began with the stack pointer at
`start`. The live bytes are listed from the top. -/
structure Stack (start : Byte) where
  pc : Address
  live : List Stack.Entry
  room : live.length ≤ 256
deriving DecidableEq

/-- The cells of so many bytes on a stack, from the top. -/
def Sequencer.stackCells (start : Byte) : (depth : Nat) → List Address
  | 0 => []
  | depth + 1 => stackCell (start - UInt8.ofNat (depth + 1)) :: stackCells start depth

namespace Stack

variable {start : Byte}

def empty (pc : Address) : Stack start := ⟨pc, [], Nat.zero_le 256⟩

def sp (t : Stack start) : Byte := start - UInt8.ofNat t.live.length

def cells (t : Stack start) : List Address := Sequencer.stackCells start t.live.length

def jump (t : Stack start) (a : Address) : Stack start := { t with pc := a }

def push? (t : Stack start) (e : Entry) : Option (Stack start) :=
  if h : t.live.length < 256 then some { t with live := e :: t.live, room := h } else none

def pull? (t : Stack start) : Option (Entry × Stack start) :=
  match t with
  | ⟨_, [], _⟩ => none
  | ⟨pc, e :: live, room⟩ => some (e, ⟨pc, live, Nat.le_of_succ_le room⟩)

def call? (t : Stack start) (a : Address) : Option (Stack start) :=
  ((t.push? (.high t.pc)).bind fun pushed => pushed.push? (.low t.pc)).map (·.jump a)

def ret? (t : Stack start) : Option (Stack start) :=
  t.pull?.bind fun (low, t) => t.pull?.map fun (high, t) =>
    t.jump (Address.ofBytes low.value high.value)

/-- What an operation makes of the stack. A program that keeps to it takes no more than is there,
leaves no more than there is room for, and stores to its live cells by pushing only. -/
def follow? (t : Stack start) : Sequencer.Operation → Option (Stack start)
  | .push b => t.push? (.byte b)
  | .pull => t.pull?.map Prod.snd
  | .call a => t.call? a
  | .ret => t.ret?
  | .jump a => some (t.jump a)
  | .branch condition a => some (if condition then t.jump a else t)
  | .next => some (t.jump (t.pc + 1))
  | .set a _ | .setLow a _ => if a ∈ t.cells then none else some t
  | .get _ | .peek _ => some t
  | .load _ _ | .setSp _ => none

def followAll? (t : Stack start) : List Sequencer.Operation → Option (Stack start)
  | [] => some t
  | operation :: operations => (t.follow? operation).bind (·.followAll? operations)

end Stack

/-- An address on the page of the stack. -/
def Address.OnStack (a : Address) : Prop := 0x0100 ≤ a ∧ a ≤ 0x01FF

instance : DecidablePred Address.OnStack := fun _ => instDecidableAnd

/-- A layout without a register on the stack. -/
def Layout.OffStack (l : Layout) : Prop := ¬ Address.OnStack l.random ∧ ¬ Address.OnStack l.input

instance : DecidablePred Layout.OffStack := fun _ => instDecidableAnd

def Sequencer.Operation.isStack : Sequencer.Operation → Bool
  | .push _ | .pull | .call _ | .ret => true
  | _ => false

namespace Sequencer

def applyAll {M : Type} [Bus M] (s : Sequencer M) (operations : List Operation) : Sequencer M :=
  operations.foldl apply s

theorem toNat_stackCell (p : Byte) : (stackCell p).toNat = 0x0100 + p.toNat := by
  have hp := p.toNat_lt
  rw [stackCell, UInt16.toNat_add, UInt8.toNat_toUInt16]
  simp only [UInt16.reduceToNat]
  omega

theorem stackCell_onStack (p : Byte) : Address.OnStack (stackCell p) := by
  have hp := p.toNat_lt
  simp only [Address.OnStack, UInt16.le_iff_toNat_le, toNat_stackCell, UInt16.reduceToNat]
  omega

theorem toNat_lowered (start : Byte) (depth : Nat) :
    ((start - UInt8.ofNat depth).toNat : Int) = (start.toNat - depth) % 256 := by
  have hs := start.toNat_lt
  rw [UInt8.toNat_sub, UInt8.toNat_ofNat']
  omega

theorem lowered_succ (start : Byte) (depth : Nat) :
    start - UInt8.ofNat (depth + 1) = start - UInt8.ofNat depth - 1 := by
  rw [UInt8.ofNat_add]
  grind

theorem mem_stackCells {start : Byte} {depth : Nat} {a : Address} :
    a ∈ stackCells start depth ↔
      ∃ i : Nat, 1 ≤ i ∧ i ≤ depth ∧ (a.toNat : Int) = 0x0100 + (start.toNat - i) % 256 := by
  induction depth with
  | zero =>
    simp only [stackCells, List.not_mem_nil, false_iff]
    rintro ⟨i, positive, within, -⟩
    omega
  | succ depth ih =>
    have top : a = stackCell (start - UInt8.ofNat (depth + 1)) ↔
        (a.toNat : Int) = 0x0100 + (start.toNat - (depth + 1 : Nat)) % 256 := by
      rw [← UInt16.toNat_inj, toNat_stackCell, ← toNat_lowered]
      omega
    rw [stackCells, List.mem_cons, top, ih]
    constructor
    · rintro (here | ⟨i, positive, within, there⟩)
      · exact ⟨depth + 1, Nat.le_add_left 1 depth, Nat.le_refl _, here⟩
      · exact ⟨i, positive, Nat.le_succ_of_le within, there⟩
    · rintro ⟨i, positive, within, there⟩
      rcases Nat.le_succ_iff.mp within with within | rfl
      · exact .inr ⟨i, positive, within, there⟩
      · exact .inl there

/-- The next cell down is free as long as the stack does not fill the whole page. -/
theorem free_stackCell (start : Byte) {depth : Nat} (room : depth < 256) :
    stackCell (start - UInt8.ofNat (depth + 1)) ∉ stackCells start depth := by
  intro taken
  obtain ⟨i, positive, within, same⟩ := mem_stackCells.mp taken
  have below := toNat_lowered start (depth + 1)
  rw [toNat_stackCell] at same
  omega

end Sequencer

theorem Layout.OffStack.isPlain {l : Layout} (off : l.OffStack) (p : Byte) :
    l.IsPlain (Sequencer.stackCell p) := by
  obtain ⟨random, input⟩ := off
  have on := Sequencer.stackCell_onStack p
  exact ⟨fun h => random (h ▸ on), fun h => input (h ▸ on)⟩

theorem Memory.peek_ram {δ : Type} [Host δ] (memory : Memory δ) (a : Address) :
    (memory.peek a).2.ram = memory.ram := by
  cases memory with
  | plain ram => rfl
  | layered layer inner => exact read_ram inner a

namespace Sequencer

variable {δ : Type} {start : Byte}

/-- A memory and its pointers hold a stack. -/
structure Holds (s : Sequencer (Memory δ)) (t : Stack start) : Prop where
  off : ∀ l ∈ s.bus.layouts, l.OffStack
  pc : s.pc = t.pc
  sp : s.sp = t.sp
  stored : t.cells.map s.bus.ram.get = t.live.map Stack.Entry.value

variable {s : Sequencer (Memory δ)} {t u : Stack start}

theorem Holds.empty (off : ∀ l ∈ s.bus.layouts, l.OffStack) : s.Holds (.empty s.pc : Stack s.sp) where
  off := off
  pc := rfl
  sp := (UInt8.sub_zero s.sp).symm
  stored := rfl

theorem Holds.jump (h : s.Holds t) (a : Address) : (s.jump a).Holds (t.jump a) :=
  ⟨h.off, rfl, h.sp, h.stored⟩

theorem Holds.toNat_sp (h : s.Holds t) : (s.sp.toNat : Int) = (start.toNat - t.live.length) % 256 := by
  rw [h.sp]
  exact toNat_lowered start t.live.length

theorem Holds.branch (h : s.Holds t) (condition : Bool) (a : Address) :
    (s.branch condition a).Holds (if condition then t.jump a else t) := by
  cases condition with
  | true => exact h.jump a
  | false => exact h

/-- What neither moves a register nor changes a live cell leaves the stack alone. -/
theorem Holds.rebus (h : s.Holds t) {bus : Memory δ} (layouts : bus.layouts = s.bus.layouts)
    (same : ∀ a ∈ t.cells, bus.ram.get a = s.bus.ram.get a) : Holds { s with bus } t where
  off := layouts ▸ h.off
  pc := h.pc
  sp := h.sp
  stored := (List.map_congr_left same).trans h.stored

variable [Host δ]

theorem Holds.set (h : s.Holds t) {a : Address} (free : a ∉ t.cells) (b : Byte) :
    (s.set a b).Holds t := by
  apply h.rebus (Memory.meet_layouts s.bus (.write a b))
  intro c live
  have other : a ≠ c := fun same => free (same ▸ live)
  change (s.bus.write a b).ram.get c = _
  rw [Memory.write_ram, Ram.get_set_other _ _ other]

theorem Holds.get (h : s.Holds t) (a : Address) : (s.get a).2.Holds t := by
  apply h.rebus (Memory.meet_layouts s.bus (.read a))
  intro c live
  exact congrArg (Ram.get · c) (s.bus.read_ram a)

theorem Holds.peek (h : s.Holds t) (a : Address) : (s.peek a).2.Holds t := by
  apply h.rebus (s.bus.peek_layouts a)
  intro c live
  exact congrArg (Ram.get · c) (s.bus.peek_ram a)

theorem Holds.next (h : s.Holds t) : s.next.2.Holds (t.jump (t.pc + 1)) := by
  rw [← h.pc]
  exact (h.get s.pc).jump (s.pc + 1)

theorem Holds.push (h : s.Holds t) {e : Stack.Entry} (pushed : t.push? e = some u) :
    (s.push e.value).Holds u := by
  unfold Stack.push? at pushed
  split at pushed
  case isFalse => cases pushed
  case isTrue room =>
    cases pushed
    have top : s.sp - 1 = start - UInt8.ofNat (t.live.length + 1) := by
      rw [h.sp, lowered_succ]
      rfl
    have free := free_stackCell start room
    rw [← top] at free
    have kept := h.set free e.value
    refine ⟨kept.off, h.pc, top, ?_⟩
    have stored : (s.bus.write (stackCell (s.sp - 1)) e.value).ram.get (stackCell (s.sp - 1)) =
        e.value := by
      rw [Memory.write_ram, Ram.get_set_self]
    change (stackCell _ :: t.cells).map _ = e.value :: t.live.map Stack.Entry.value
    rw [← top, List.map_cons]
    exact List.cons_eq_cons.mpr ⟨stored, kept.stored⟩

/-- The byte on top is the one that was pushed last. -/
theorem Holds.pull (h : s.Holds t) {e : Stack.Entry} (pulled : t.pull? = some (e, u)) :
    s.pull.1 = e.value ∧ s.pull.2.Holds u := by
  obtain ⟨pc, live, room⟩ := t
  cases live with
  | nil => cases pulled
  | cons e live =>
    cases pulled
    obtain ⟨top, stored⟩ := List.cons.inj h.stored
    have sp : s.sp = start - UInt8.ofNat (live.length + 1) := h.sp
    rw [← sp] at top
    have plain : ∀ l ∈ s.bus.layouts, l.IsPlain (stackCell s.sp) :=
      fun l hl => (h.off l hl).isPlain s.sp
    have read : s.pull = (e.value, { s with sp := s.sp + 1 }) := by
      rw [← top]
      change ((s.bus.read _).1, (⟨(s.bus.read _).2, _, _⟩ : Sequencer (Memory δ))) = _
      rw [s.bus.read_of_plain_layers plain]
    rw [read]
    refine ⟨rfl, h.off, h.pc, ?_, stored⟩
    change s.sp + 1 = start - UInt8.ofNat live.length
    rw [sp, lowered_succ, UInt8.sub_add_cancel]

/-- The address to return to is saved behind the call. -/
theorem Holds.call (h : s.Holds t) {a : Address} (called : t.call? a = some u) :
    (s.call a).Holds u := by
  obtain ⟨saved, pushed, rfl⟩ := Option.map_eq_some_iff.mp called
  obtain ⟨half, high, low⟩ := Option.bind_eq_some_iff.mp pushed
  rw [← h.pc] at high low
  exact ((h.push high).push low).jump a

theorem Holds.ret (h : s.Holds t) (returned : t.ret? = some u) : s.ret.Holds u := by
  obtain ⟨⟨low, half⟩, first, rest⟩ := Option.bind_eq_some_iff.mp returned
  obtain ⟨⟨high, whole⟩, second, rfl⟩ := Option.map_eq_some_iff.mp rest
  obtain ⟨top, h⟩ := h.pull first
  obtain ⟨next, h⟩ := h.pull second
  have target : Address.ofBytes s.pull.1 s.pull.2.pull.1 = Address.ofBytes low.value high.value := by
    rw [top, next]
  change (s.pull.2.pull.2.jump (Address.ofBytes s.pull.1 s.pull.2.pull.1)).Holds _
  rw [target]
  exact h.jump _

theorem Holds.pull_top (h : s.Holds t) {e : Stack.Entry} {rest : List Stack.Entry}
    (top : t.live = e :: rest) : s.pull.1 = e.value := by
  obtain ⟨pc, live, room⟩ := t
  subst top
  exact (h.pull rfl).1

theorem Holds.ret_top (h : s.Holds t) {low high : Stack.Entry} {rest : List Stack.Entry}
    (top : t.live = low :: high :: rest) : s.ret.pc = Address.ofBytes low.value high.value := by
  obtain ⟨pc, live, room⟩ := t
  subst top
  exact (h.ret rfl).pc

theorem Holds.apply (h : s.Holds t) {operation : Operation}
    (applied : t.follow? operation = some u) : (s.apply operation).Holds u := by
  have store (a : Address) (b : Byte) (stored : (if a ∈ t.cells then none else some t) = some u) :
      (s.set a b).Holds u := by
    split at stored
    case isTrue => cases stored
    case isFalse free =>
      cases stored
      exact h.set free b
  cases operation with
  | get a =>
    cases applied
    exact h.get a
  | set a b => exact store a b applied
  | setLow a w => exact store a w.low applied
  | peek a =>
    cases applied
    exact h.peek a
  | load image origin => cases applied
  | next =>
    cases applied
    exact h.next
  | push b => exact h.push applied
  | pull =>
    obtain ⟨⟨e, rest⟩, pulled, rfl⟩ := Option.map_eq_some_iff.mp applied
    exact (h.pull pulled).2
  | jump a =>
    cases applied
    exact h.jump a
  | branch condition a =>
    cases applied
    exact h.branch condition a
  | setSp sp => cases applied
  | call a => exact h.call applied
  | ret => exact h.ret applied

theorem Holds.applyAll (h : s.Holds t) {operations : List Operation}
    (applied : t.followAll? operations = some u) : (s.applyAll operations).Holds u := by
  induction operations generalizing s t with
  | nil =>
    cases applied
    exact h
  | cons operation operations ih =>
    obtain ⟨next, first, rest⟩ := Option.bind_eq_some_iff.mp applied
    exact ih (h.apply first) rest

/-- The stack operations stay on the stack. -/
theorem apply_off (s : Sequencer (Memory δ)) {operation : Operation}
    (stack : operation.isStack = true) {a : Address} (off : ¬ a.OnStack) :
    (s.apply operation).bus.ram.get a = s.bus.ram.get a := by
  have push (bus : Memory δ) (p b : Byte) :
      (bus.write (stackCell p) b).ram.get a = bus.ram.get a := by
    have other : stackCell p ≠ a := fun same => off (same ▸ stackCell_onStack p)
    rw [Memory.write_ram, Ram.get_set_other _ _ other]
  have pull (bus : Memory δ) (p : Byte) : (bus.read (stackCell p)).2.ram.get a = bus.ram.get a :=
    congrArg (Ram.get · a) (bus.read_ram _)
  cases operation with
  | push b => exact push s.bus _ b
  | pull => exact pull s.bus _
  | call target => exact (push _ _ _).trans (push s.bus _ _)
  | ret => exact (pull _ _).trans (pull s.bus _)
  | _ => cases stack

/-- From any stack pointer on, the two pointers and their page are a stack to a program that keeps to
it. A pull gives the byte pushed last and a return goes back behind the call, whatever was pushed,
pulled, called and stored elsewhere in between, and also where the pointer wraps between the halves
of an address. The live cells lie below the start, which the pointer is back at when none is left.
No stack operation changes another page. Plain memory is the case without layers. -/
theorem stack_refines (s : Sequencer (Memory δ)) (operations : List Operation) (t : Stack s.sp)
    (off : ∀ l ∈ s.bus.layouts, l.OffStack)
    (kept : (Stack.empty s.pc).followAll? operations = some t) :
    let now := s.applyAll operations
    now.pc = t.pc ∧
      (now.sp.toNat : Int) = (s.sp.toNat - t.live.length) % 256 ∧
      (t.live = [] → now.sp = s.sp) ∧
      (∀ a, a ∈ t.cells ↔ ∃ i : Nat, 1 ≤ i ∧ i ≤ t.live.length ∧
        (a.toNat : Int) = 0x0100 + (s.sp.toNat - i) % 256) ∧
      t.cells.map now.bus.ram.get = t.live.map Stack.Entry.value ∧
      (∀ e rest, t.live = e :: rest → now.pull.1 = e.value) ∧
      (∀ low high rest, t.live = low :: high :: rest →
        now.ret.pc.toNat = low.value.toNat + 256 * high.value.toNat) ∧
      (∀ saved rest, t.live = .low saved :: .high saved :: rest → now.ret.pc = saved) ∧
      ∀ (m : Sequencer (Memory δ)) operation, operation.isStack = true →
        ∀ a : Address, ¬ a.OnStack → (m.apply operation).bus.ram.get a = m.bus.ram.get a := by
  have holds : (s.applyAll operations).Holds t := (Holds.empty off).applyAll kept
  refine ⟨holds.pc, holds.toNat_sp, ?_, fun _ => mem_stackCells, holds.stored, ?_, ?_, ?_, ?_⟩
  · intro empty
    rw [holds.sp, Stack.sp, empty]
    exact UInt8.sub_zero s.sp
  · intro e rest top
    exact holds.pull_top top
  · intro low high rest top
    rw [holds.ret_top top]
    exact Address.toNat_ofBytes _ _
  · intro saved rest top
    rw [holds.ret_top top]
    exact Address.ofBytes_low_high saved
  · intro m operation stack a off
    exact m.apply_off stack off

/-- A console whose stack pointer is about to wrap. -/
def nearBottom : Sequencer (Memory Device) := { bus := .console .null (.ofSeed 7), sp := 0x02 }

/-- A byte is pushed, and a call made whose address has a half on either side of the wrap. -/
def crossing : List Operation :=
  [.push 0x42, .next, .call 0x1234, .set 0x0150 0x99, .push 0x07, .pull]

theorem stack_refines_crossing :
    (∀ l ∈ nearBottom.bus.layouts, l.OffStack) ∧
      (Stack.empty programOrigin : Stack 0x02).followAll? crossing =
        some ⟨0x1234, [.low 0x0601, .high 0x0601, .byte 0x42], by decide⟩ ∧
      (nearBottom.applyAll crossing).ret.pc = 0x0601 := by
  have off : ∀ l ∈ nearBottom.bus.layouts, l.OffStack := by decide
  have kept : (Stack.empty nearBottom.pc : Stack nearBottom.sp).followAll? crossing =
      some ⟨0x1234, [.low 0x0601, .high 0x0601, .byte 0x42], by decide⟩ := by decide +kernel
  obtain ⟨-, -, -, -, -, -, -, back, -⟩ := stack_refines nearBottom crossing _ off kept
  exact ⟨off, kept, back 0x0601 _ rfl⟩

end Sequencer

end Console6502
