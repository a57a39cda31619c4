import Console6502.Host
import Console6502.Memory.Layout
import Console6502.Ram
import Console6502.Random.Source

namespace Console6502

/-- The hooks put over a memory. -/
structure Layer (δ : Type) where
  layout : Layout
  device : δ
  source : Random.Source

namespace Layer

variable {δ : Type} [Host δ]

/-- Answers a read at the random register or else at the input register. -/
def answer? (l : Layer δ) (a : Address) : Option (Byte × Layer δ) :=
  if a = l.layout.random then
    let (b, source) := l.source.next
    some (b, { l with source })
  else if a = l.layout.input then
    some (Host.lastInput l.device, l)
  else
    none

/-- Reports a write in the display window to the device. -/
def watch (l : Layer δ) (a : Address) (b : Byte) : Layer δ :=
  match l with
  | ⟨layout, device, source⟩ =>
    match layout.pixel? a b with
    | some p => ⟨layout, Host.draw device p, source⟩
    | none => ⟨layout, device, source⟩

end Layer

/-- Plain memory under any number of layers. -/
inductive Memory (δ : Type)
  | plain (ram : Ram)
  | layered (layer : Layer δ) (inner : Memory δ)

namespace Memory

variable {δ : Type}

/-- A layer with the default layout over blank memory. -/
def console (device : δ) (source : Random.Source) : Memory δ :=
  layered ⟨{}, device, source⟩ (plain Ram.blank)

/-- The plain memory below all layers. -/
def ram : Memory δ → Ram
  | plain ram => ram
  | layered _ inner => inner.ram

/-- The layers from the outermost inwards. -/
def layers : Memory δ → List (Layer δ)
  | plain _ => []
  | layered layer inner => layer :: inner.layers

def outer? : Memory δ → Option (Layer δ)
  | plain _ => none
  | layered layer _ => some layer

/-- Changes the device of the outermost layer. -/
def modifyDevice (f : δ → δ) : Memory δ → Memory δ
  | plain ram => plain ram
  | layered layer inner => layered { layer with device := f layer.device } inner

variable [Host δ]

/-- The outermost layer with a register at the address answers; below all layers the cell does. -/
def read : Memory δ → Address → Byte × Memory δ
  | plain ram, a => (ram.get a, plain ram)
  | layered layer inner, a =>
    match layer.answer? a with
    | some (b, layer) => (b, layered layer inner)
    | none =>
      let (b, inner) := inner.read a
      (b, layered layer inner)

/-- A write goes through to the cell, whatever registers lie over it. -/
def write : Memory δ → Address → Byte → Memory δ
  | plain ram, a, b => plain (ram.set a b)
  | layered layer inner, a, b => layered (layer.watch a b) (inner.write a b)

/-- Passes the registers of the outermost layer by. The memory below is read as usual. -/
def peek : Memory δ → Address → Byte × Memory δ
  | plain ram, a => (ram.get a, plain ram)
  | layered layer inner, a =>
    let (b, inner) := inner.read a
    (b, layered layer inner)

end Memory

instance {δ : Type} [Host δ] : Bus (Memory δ) where
  read := Memory.read
  write := Memory.write
  peek := Memory.peek

end Console6502
