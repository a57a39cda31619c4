import Console6502.Proofs.Transparency
import Console6502.Proofs.Window

namespace Console6502

namespace Layout

/-- The pixels that a write draws: one for a cell of the window, and none for any other. -/
def report (l : Layout) (a : Address) (b : Byte) : List Pixel :=
  let offset := a.toNat - l.start.toNat
  if l.start.toNat ≤ a.toNat ∧ offset < l.width.toNat * l.height.toNat then
    [⟨UInt16.ofNat (offset % l.width.toNat), UInt16.ofNat (offset / l.width.toNat),
      UInt8.ofNat (b.toNat % max l.colors.toNat 1)⟩]
  else []

theorem toNat_most (l : Layout) : (max l.colors 1).toNat = max l.colors.toNat 1 := by
  change (if l.colors ≤ 1 then 1 else l.colors).toNat = max l.colors.toNat 1
  split
  case isTrue few =>
    have few : l.colors.toNat ≤ 1 := UInt8.le_iff_toNat_le.mp few
    exact (Nat.max_eq_right few).symm
  case isFalse many =>
    rw [UInt8.le_iff_toNat_le] at many
    exact (Nat.max_eq_left (Nat.le_of_not_le many)).symm

theorem color_eq (l : Layout) (b : Byte) :
    l.color b = UInt8.ofNat (b.toNat % max l.colors.toNat 1) := by
  have hb := b.toNat_lt
  have less : b.toNat % max l.colors.toNat 1 ≤ b.toNat := Nat.mod_le _ _
  apply UInt8.toNat_inj.mp
  rw [color, UInt8.toNat_mod, toNat_most, UInt8.toNat_ofNat']
  omega

theorem report_eq (l : Layout) (a : Address) (b : Byte) : l.report a b = (l.pixel? a b).toList := by
  simp only [report, pixel?, position?_eq, color_eq]
  split <;> rfl

end Layout

/-- What happens to a memory from outside. The host acts on the device of the layer that has so
many layers over it. -/
inductive Memory.Event (δ : Type)
  | read (a : Address)
  | write (a : Address) (b : Byte)
  | host (depth : Nat) (act : δ → δ)

namespace Memory.Event

variable {δ : Type}

/-- The cell and the byte that an event stores. -/
def stored? : Event δ → Option (Address × Byte)
  | write a b => some (a, b)
  | _ => none

/-- Whether an event draws a random byte from a layer with `outer` over it. -/
def draws (outer : List Layout) (l : Layout) : Event δ → Bool
  | read a => decide (a = l.random ∧ ∀ o ∈ outer, o.IsPlain a)
  | _ => false

/-- What an event makes of the device of a layer. -/
def tell [Host δ] (l : Layout) (depth : Nat) (device : δ) : Event δ → δ
  | read _ => device
  | write a b => (l.report a b).foldl Host.draw device
  | host other act => if other = depth then act device else device

theorem draws_nil (l : Layout) (a : Address) :
    (read a : Event δ).draws [] l = decide (a = l.random) := by
  simp [draws]

theorem draws_cons (o : Layout) (outer : List Layout) (l : Layout) (a : Address) :
    (read a : Event δ).draws (o :: outer) l =
      (decide (o.IsPlain a) && (read a : Event δ).draws outer l) := by
  simp only [draws, List.forall_mem_cons, ← Bool.decide_and]
  exact decide_eq_decide.mpr and_left_comm

end Memory.Event

namespace Layer

open Memory (Event)

variable {δ : Type} [Host δ]

/-- What becomes of a layer with `outer` over it. -/
def evolve (depth : Nat) (outer : List Layout) (events : List (Event δ)) (l : Layer δ) :
    Layer δ where
  layout := l.layout
  device := events.foldl (Event.tell l.layout depth) l.device
  source :=
    { stream := l.source.stream
      drawn := l.source.drawn + events.countP (Event.draws outer l.layout) }

theorem evolve_cons (depth : Nat) (outer : List Layout) (e : Event δ) (events : List (Event δ))
    (l : Layer δ) :
    l.evolve depth outer (e :: events) = (l.evolve depth outer [e]).evolve depth outer events := by
  simp only [evolve, List.foldl_cons, List.foldl_nil, List.countP_cons, List.countP_nil]
  congr 2
  omega

theorem evolve_read (depth : Nat) (outer : List Layout) (l : Layer δ) (a : Address) :
    l.evolve depth outer [.read a] =
      if (Event.read a : Event δ).draws outer l.layout then { l with source := l.source.next.2 }
      else l := by
  simp only [evolve, List.foldl_cons, List.foldl_nil, Event.tell, List.countP_cons, List.countP_nil]
  split <;> rfl

theorem evolve_write (depth : Nat) (outer : List Layout) (l : Layer δ) (a : Address) (b : Byte) :
    l.evolve depth outer [.write a b] = l.watch a b := by
  obtain ⟨layout, device, source⟩ := l
  simp only [evolve, List.foldl_cons, List.foldl_nil, Event.tell, Layout.report_eq]
  cases h : layout.pixel? a b with
  | none => simp [watch, h, Event.draws]
  | some p => simp [watch, h, Event.draws]

theorem evolve_host (depth : Nat) (outer : List Layout) (l : Layer δ) (other : Nat) (act : δ → δ) :
    l.evolve depth outer [.host other act] =
      if other = depth then { l with device := act l.device } else l := by
  simp only [evolve, List.foldl_cons, List.foldl_nil, Event.tell]
  split <;> rfl

end Layer

namespace Memory

variable {δ : Type}

/-- The layouts from the outermost inwards. -/
def layouts (memory : Memory δ) : List Layout := memory.layers.map Layer.layout

/-- The host does something to the device of the layer that has so many layers over it. -/
def touch (memory : Memory δ) (depth : Nat) (act : δ → δ) : Memory δ :=
  match memory, depth with
  | plain ram, _ => plain ram
  | layered layer inner, 0 => layered { layer with device := act layer.device } inner
  | layered layer inner, depth + 1 => layered layer (inner.touch depth act)

variable [Host δ]

def meet (memory : Memory δ) : Event δ → Memory δ
  | .read a => (memory.read a).2
  | .write a b => memory.write a b
  | .host depth act => memory.touch depth act

/-- The memory after a history. -/
def after (memory : Memory δ) (events : List (Event δ)) : Memory δ := events.foldl meet memory

theorem read_layers (memory : Memory δ) (a : Address) :
    (memory.read a).2.layers =
      memory.layers.mapIdx fun depth l => l.evolve depth (memory.layouts.take depth) [.read a] := by
  simp only [Layer.evolve_read]
  induction memory with
  | plain ram => rfl
  | layered layer inner ih =>
    have rest : (inner.layers.mapIdx fun _ l => l) = inner.layers :=
      List.mapIdx_eq_iff.mpr (by simp)
    simp only [layouts] at ih
    simp only [layers, layouts, List.mapIdx_cons, List.map_cons, List.take_zero,
      List.take_succ_cons, Event.draws_nil, Event.draws_cons, read]
    obtain ⟨plain, silent⟩ | ⟨random, special, drawn⟩ | ⟨random, special, told⟩ :=
      layer.answer?_cases a
    · simp only [silent, plain, plain.1, layers, decide_true, decide_false, Bool.true_and, ih]
      rfl
    · simp [drawn, special, decide_eq_true random, layers, rest]
    · simp [told, special, random, layers, rest]

theorem write_layers (memory : Memory δ) (a : Address) (b : Byte) :
    (memory.write a b).layers =
      memory.layers.mapIdx fun depth l =>
        l.evolve depth (memory.layouts.take depth) [.write a b] := by
  simp only [Layer.evolve_write]
  induction memory with
  | plain ram => rfl
  | layered layer inner ih => simp only [write, layers, List.mapIdx_cons, ih]

theorem touch_layers (memory : Memory δ) (other : Nat) (act : δ → δ) :
    (memory.touch other act).layers =
      memory.layers.mapIdx fun depth l =>
        l.evolve depth (memory.layouts.take depth) [.host other act] := by
  simp only [Layer.evolve_host]
  induction memory generalizing other with
  | plain ram => rfl
  | layered layer inner ih =>
    have rest : (inner.layers.mapIdx fun _ l => l) = inner.layers :=
      List.mapIdx_eq_iff.mpr (by simp)
    cases other with
    | zero => simp [touch, layers, rest]
    | succ other => simp [touch, layers, ih]

/-- An event does to each layer what the place of the layer in the stack tells. -/
theorem meet_layers (memory : Memory δ) (e : Event δ) :
    (memory.meet e).layers =
      memory.layers.mapIdx fun depth l => l.evolve depth (memory.layouts.take depth) [e] := by
  cases e with
  | read a => exact read_layers memory a
  | write a b => exact write_layers memory a b
  | host depth act => exact touch_layers memory depth act

theorem meet_layouts (memory : Memory δ) (e : Event δ) :
    (memory.meet e).layouts = memory.layouts := by
  rw [layouts, layouts, meet_layers]
  apply List.ext_getElem?
  intro depth
  simp only [List.getElem?_map, List.getElem?_mapIdx, Option.map_map]
  rfl

theorem after_layers (memory : Memory δ) (events : List (Event δ)) :
    (memory.after events).layers =
      memory.layers.mapIdx fun depth l => l.evolve depth (memory.layouts.take depth) events := by
  induction events generalizing memory with
  | nil => exact (List.mapIdx_eq_iff.mpr (by simp [after, Layer.evolve])).symm
  | cons e events ih =>
    change ((memory.meet e).after events).layers = _
    rw [ih, meet_layers, meet_layouts, List.mapIdx_mapIdx]
    congr 1
    funext depth l
    exact (Layer.evolve_cons depth _ e events l).symm

theorem after_layouts (memory : Memory δ) (events : List (Event δ)) :
    (memory.after events).layouts = memory.layouts := by
  induction events generalizing memory with
  | nil => rfl
  | cons e events ih => exact (ih (memory.meet e)).trans (meet_layouts memory e)

theorem read_ram (memory : Memory δ) (a : Address) : (memory.read a).2.ram = memory.ram := by
  induction memory with
  | plain ram => rfl
  | layered layer inner ih =>
    rw [read]
    cases layer.answer? a with
    | some answer => rfl
    | none => exact ih

theorem write_ram (memory : Memory δ) (a : Address) (b : Byte) :
    (memory.write a b).ram = memory.ram.set a b := by
  induction memory with
  | plain ram => rfl
  | layered layer inner ih => exact ih

omit [Host δ] in
theorem touch_ram (memory : Memory δ) (depth : Nat) (act : δ → δ) :
    (memory.touch depth act).ram = memory.ram := by
  induction memory generalizing depth with
  | plain ram => rfl
  | layered layer inner ih =>
    cases depth with
    | zero => rfl
    | succ depth => exact ih depth

theorem after_ram (memory : Memory δ) (events : List (Event δ)) :
    (memory.after events).ram = Bus.writeAll memory.ram (events.filterMap Event.stored?) := by
  induction events generalizing memory with
  | nil => rfl
  | cons e events ih =>
    change ((memory.meet e).after events).ram = _
    rw [ih]
    cases e with
    | read a => exact congrArg (Bus.writeAll · _) (read_ram memory a)
    | write a b => exact congrArg (Bus.writeAll · _) (write_ram memory a b)
    | host depth act => exact congrArg (Bus.writeAll · _) (touch_ram memory depth act)

/-- The outermost layer with a register at an address. -/
def answering? (memory : Memory δ) (a : Address) : Option (Layer δ) :=
  memory.layers.find? fun l => !decide (l.layout.IsPlain a)

theorem read_eq (memory : Memory δ) (a : Address) :
    (memory.read a).1 =
      match memory.answering? a with
      | some l =>
        if a = l.layout.random then l.source.stream l.source.drawn else Host.lastInput l.device
      | none => memory.ram.get a := by
  induction memory with
  | plain ram => rfl
  | layered layer inner ih =>
    simp only [answering?] at ih
    simp only [read, answering?, layers, ram, List.find?_cons]
    obtain ⟨plain, silent⟩ | ⟨random, special, drawn⟩ | ⟨random, special, told⟩ :=
      layer.answer?_cases a
    · simp [silent, plain, ih]
    · simp [drawn, special, if_pos random]
    · simp [told, special, random]

theorem read_draws (memory : Memory δ) {depth : Nat} {l : Layer δ} {a : Address}
    (place : memory.layers[depth]? = some l)
    (draws : (Event.read a : Event δ).draws (memory.layouts.take depth) l.layout = true) :
    (memory.read a).1 = l.source.stream l.source.drawn := by
  induction memory generalizing depth with
  | plain ram => cases place
  | layered layer inner ih =>
    cases depth with
    | zero =>
      cases place
      simp only [List.take_zero, Event.draws_nil, decide_eq_true_eq] at draws
      simp only [read, Layer.answer?_of_random draws]
    | succ depth =>
      simp only [layouts, layers, List.map_cons, List.take_succ_cons, Event.draws_cons,
        Bool.and_eq_true, decide_eq_true_eq] at draws
      obtain ⟨plain, draws⟩ := draws
      simp only [read, Layer.answer?_of_plain plain]
      exact ih place draws

/-- After any history the cells hold what plain memory would hold. Each layer has drawn a byte for
each read that it was the outermost to answer at its random register, and its device has been told
of each write to its window, once and in order. A read is answered by the outermost layer with a
register there, with its next random byte or else its last input, and by the cell if there is none;
so a layer gives out its stream byte by byte, whatever happens in between. -/
theorem history (memory : Memory δ) (events : List (Event δ)) :
    let now := memory.after events
    now.ram = Bus.writeAll memory.ram (events.filterMap Event.stored?) ∧
      (now.layers = memory.layers.mapIdx fun depth l =>
        l.evolve depth (memory.layouts.take depth) events) ∧
      (∀ a, (now.read a).1 =
        match now.answering? a with
        | some l =>
          if a = l.layout.random then l.source.stream l.source.drawn else Host.lastInput l.device
        | none => now.ram.get a) ∧
      ∀ depth l a, memory.layers[depth]? = some l →
        (Event.read a : Event δ).draws (memory.layouts.take depth) l.layout = true →
          (now.read a).1 = l.source.stream (l.source.drawn +
            events.countP (Event.draws (memory.layouts.take depth) l.layout)) := by
  refine ⟨after_ram memory events, after_layers memory events, read_eq _, ?_⟩
  intro depth l a place draws
  have now : (memory.after events).layers[depth]? =
      some (l.evolve depth (memory.layouts.take depth) events) := by
    rw [after_layers, List.getElem?_mapIdx, place]
    rfl
  apply read_draws _ now
  rw [after_layouts]
  exact draws

end Memory

end Console6502
