import Console6502.Bus

namespace Console6502

/-- Where programs start unless they are told otherwise. -/
def programOrigin : Address := 0x0600

/-- The bus with the two pointers that walk through it. Both of them wrap. -/
structure Sequencer (M : Type) where
  bus : M
  pc : Address := programOrigin
  sp : Byte := 0xFF

namespace Sequencer

/-- The stack cell that a pointer stands for. -/
def stackCell (sp : Byte) : Address := 0x0100 + sp.toUInt16

variable {M : Type}

def jump (s : Sequencer M) (a : Address) : Sequencer M := { s with pc := a }

def branch (s : Sequencer M) (condition : Bool) (a : Address) : Sequencer M :=
  if condition then s.jump a else s

def setSp (s : Sequencer M) (sp : Byte) : Sequencer M := { s with sp }

variable [Bus M]

def get (s : Sequencer M) (a : Address) : Byte × Sequencer M :=
  match s with
  | ⟨bus, pc, sp⟩ =>
    let (b, bus) := Bus.read bus a
    (b, ⟨bus, pc, sp⟩)

def set (s : Sequencer M) (a : Address) (b : Byte) : Sequencer M :=
  match s with
  | ⟨bus, pc, sp⟩ => ⟨Bus.write bus a b, pc, sp⟩

def setLow (s : Sequencer M) (a : Address) (w : Address) : Sequencer M := s.set a w.low

def peek (s : Sequencer M) (a : Address) : Byte × Sequencer M :=
  match s with
  | ⟨bus, pc, sp⟩ =>
    let (b, bus) := Bus.peek bus a
    (b, ⟨bus, pc, sp⟩)

/-- The word whose bytes lie at two addresses, the low byte read first. -/
def getPair (s : Sequencer M) (low high : Address) : Address × Sequencer M :=
  let (l, s) := s.get low
  let (h, s) := s.get high
  (Address.ofBytes l h, s)

def getWord (s : Sequencer M) (a : Address) : Address × Sequencer M := s.getPair a (a + 1)

/-- Stores an image byte after byte, going on at address zero after the last one. -/
def load (s : Sequencer M) : (image : List Byte) → (origin : Address) → Sequencer M
  | [], _ => s
  | b :: image, origin => (s.set origin b).load image (origin + 1)

/-- The byte at the program counter, which moves past it. -/
def next (s : Sequencer M) : Byte × Sequencer M :=
  match s with
  | ⟨bus, pc, sp⟩ =>
    let (b, bus) := Bus.read bus pc
    (b, ⟨bus, pc + 1, sp⟩)

def nextWord (s : Sequencer M) : Address × Sequencer M :=
  let (l, s) := s.next
  let (h, s) := s.next
  (Address.ofBytes l h, s)

/-- Moves the stack pointer down and stores where it then points. -/
def push (s : Sequencer M) (b : Byte) : Sequencer M :=
  match s with
  | ⟨bus, pc, sp⟩ => ⟨Bus.write bus (stackCell (sp - 1)) b, pc, sp - 1⟩

/-- Reads where the stack pointer points and moves it up. -/
def pull (s : Sequencer M) : Byte × Sequencer M :=
  match s with
  | ⟨bus, pc, sp⟩ =>
    let (b, bus) := Bus.read bus (stackCell sp)
    (b, ⟨bus, pc, sp + 1⟩)

/-- Saves the program counter, high byte first, and jumps. -/
def call (s : Sequencer M) (a : Address) : Sequencer M :=
  let pc := s.pc
  ((s.push pc.high).push pc.low).jump a

/-- Jumps to the saved word on top of the stack. -/
def ret (s : Sequencer M) : Sequencer M :=
  let (l, s) := s.pull
  let (h, s) := s.pull
  s.jump (Address.ofBytes l h)

end Sequencer

end Console6502
