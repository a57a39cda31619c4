import Console6502.Host.Screen
import Console6502.Memory
import Console6502.Proofs.Commands
import Console6502.Proofs.Transparency
import Console6502.Proofs.Window

namespace Console6502

namespace Frame

theorem pixel?_blank (width height x y : UInt16) :
    (blank width height).pixel? x y = if x < width ∧ y < height then some 0 else none := by
  simp only [pixel?, blank, Vector.getElem_replicate, dite_eq_ite]

/-- Different places lie in different cells. -/
theorem place_inj {width : Nat} {x x' : UInt16} (y y' : UInt16) (hx : x.toNat < width)
    (hx' : x'.toNat < width) :
    y.toNat * width + x.toNat = y'.toNat * width + x'.toNat ↔ x = x' ∧ y = y' := by
  have positive : 0 < width := Nat.zero_lt_of_lt hx
  have cut (row : Nat) {column : Nat} (h : column < width) :
      (row * width + column) / width = row ∧ (row * width + column) % width = column :=
    (Nat.div_mod_unique positive).mpr ⟨by rw [Nat.mul_comm, Nat.add_comm], h⟩
  constructor
  · intro same
    obtain ⟨row, column⟩ := cut y.toNat hx
    rw [same] at row column
    obtain ⟨row', column'⟩ := cut y'.toNat hx'
    exact ⟨UInt16.toNat_inj.mp (column.symm.trans column'),
      UInt16.toNat_inj.mp (row.symm.trans row')⟩
  · rintro ⟨rfl, rfl⟩
    rfl

theorem pixel?_draw (f : Frame) (p : Pixel) (x y : UInt16) :
    (f.draw p).pixel? x y =
      if (p.x = x ∧ p.y = y) ∧ x < f.width ∧ y < f.height then some p.color else f.pixel? x y := by
  obtain ⟨width, height, cells, writes⟩ := f
  by_cases inside : p.x < width ∧ p.y < height
  · have drawn : draw ⟨width, height, cells, writes⟩ p =
        ⟨width, height, cells.set _ p.color (cell_lt inside), writes + 1⟩ := dif_pos inside
    rw [drawn]
    by_cases place : x < width ∧ y < height
    · have apart := place_inj p.y y (UInt16.lt_iff_toNat_lt.mp inside.1)
        (UInt16.lt_iff_toNat_lt.mp place.1)
      simp only [pixel?, place, and_self, dite_true, Vector.getElem_set, apart, and_true]
      split <;> rfl
    · simp [pixel?, place]
  · have drawn : draw ⟨width, height, cells, writes⟩ p = ⟨width, height, cells, writes + 1⟩ :=
      dif_neg inside
    rw [drawn]
    split
    case isTrue same =>
      obtain ⟨⟨rfl, rfl⟩, place⟩ := same
      exact absurd place inside
    case isFalse => rfl

theorem draw_width (f : Frame) (p : Pixel) : (f.draw p).width = f.width := by
  simp only [draw]
  split <;> rfl

theorem draw_height (f : Frame) (p : Pixel) : (f.draw p).height = f.height := by
  simp only [draw]
  split <;> rfl

end Frame

/-- A frame of the given size shows the cells of the window at their places, and nothing elsewhere. -/
structure Layout.Shows (layout : Layout) (width height : UInt16) (ram : Ram) (frame : Frame) :
    Prop where
  columns : frame.width = width
  rows : frame.height = height
  cell : ∀ {a x y}, layout.position? a = some (x, y) → x < width ∧ y < height →
    frame.pixel? x y = some (layout.color (ram.get a))
  rest : ∀ {x y}, (∀ a, layout.position? a ≠ some (x, y)) → x < width ∧ y < height →
    frame.pixel? x y = some 0

namespace Layout.Shows

variable {layout : Layout} {width height : UInt16} {ram : Ram} {frame : Frame}

theorem blank (layout : Layout) (width height : UInt16) :
    layout.Shows width height .blank (Frame.blank width height) where
  columns := rfl
  rows := rfl
  cell := by
    intro a x y _ inside
    have black : (0 : Byte) % max layout.colors 1 = 0 := UInt8.zero_mod
    rw [Frame.pixel?_blank, if_pos inside, Ram.get_blank, color, black]
  rest := by
    intro x y _ inside
    rw [Frame.pixel?_blank, if_pos inside]

theorem write_outside (h : layout.Shows width height ram frame) {a : Address} (b : Byte)
    (outside : layout.position? a = none) : layout.Shows width height (ram.set a b) frame where
  columns := h.columns
  rows := h.rows
  cell := by
    intro c x y place inside
    have other : a ≠ c := by
      rintro rfl
      simp [place] at outside
    rw [Ram.get_set_other ram b other]
    exact h.cell place inside
  rest := h.rest

theorem write_inside (h : layout.Shows width height ram frame) {a : Address} (b : Byte)
    {x y : UInt16} (drawn : layout.position? a = some (x, y)) :
    layout.Shows width height (ram.set a b) (frame.draw ⟨x, y, layout.color b⟩) where
  columns := (frame.draw_width _).trans h.columns
  rows := (frame.draw_height _).trans h.rows
  cell := by
    intro c x' y' place inside
    rw [Frame.pixel?_draw, h.columns, h.rows]
    by_cases same : x = x' ∧ y = y'
    · obtain ⟨rfl, rfl⟩ := same
      obtain rfl := layout.position?_injective drawn place
      rw [if_pos ⟨⟨rfl, rfl⟩, inside⟩, Ram.get_set_self]
    · have other : a ≠ c := by
        rintro rfl
        rw [drawn] at place
        cases place
        exact same ⟨rfl, rfl⟩
      rw [if_neg (mt And.left same), Ram.get_set_other ram b other]
      exact h.cell place inside
  rest := by
    intro x' y' none inside
    have other : ¬ (x = x' ∧ y = y') := by
      rintro ⟨rfl, rfl⟩
      exact none a drawn
    rw [Frame.pixel?_draw, if_neg (mt And.left other)]
    exact h.rest none inside

end Layout.Shows

namespace Memory

variable {layout : Layout} {width height : UInt16}

/-- Plain memory under a layer whose screen shows its window. -/
def Pictured (layout : Layout) (width height : UInt16) (memory : Memory Screen) : Prop :=
  ∃ screen source ram, memory = layered ⟨layout, screen, source⟩ (plain ram) ∧
    layout.Shows width height ram screen.frame

theorem read_answers {δ : Type} [Host δ] (l : Layer δ) (ram : Ram) (a : Address) :
    ∃ source, ((layered l (plain ram)).read a).2 = layered { l with source } (plain ram) := by
  obtain ⟨-, silent⟩ | ⟨-, -, drawn⟩ | ⟨-, -, told⟩ := l.answer?_cases a
  · exact ⟨l.source, by simp only [read, silent]⟩
  · exact ⟨l.source.next.2, by simp only [read, drawn]⟩
  · exact ⟨l.source, by simp only [read, told]⟩

theorem pictured_write (layout : Layout) (screen : Screen) (source : Random.Source) {ram : Ram}
    (shows : layout.Shows width height ram screen.frame) (a : Address) (b : Byte) :
    Pictured layout width height
      ((layered ⟨layout, screen, source⟩ (plain ram)).write a b) := by
  cases drawn : layout.position? a with
  | none =>
    refine ⟨screen, source, ram.set a b, ?_, shows.write_outside b drawn⟩
    simp [write, Layer.watch, Layout.pixel?, drawn]
  | some place =>
    obtain ⟨x, y⟩ := place
    refine ⟨screen.draw ⟨x, y, layout.color b⟩, source, ram.set a b, ?_, shows.write_inside b drawn⟩
    simp [write, Layer.watch, Layout.pixel?, drawn]
    rfl

/-- The picture stays true under every access. -/
theorem kept_pictured : Bus.Kept (Pictured layout width height) where
  read := by
    rintro _ ⟨screen, source, ram, rfl, shows⟩ a
    obtain ⟨drawn, left⟩ := read_answers ⟨layout, screen, source⟩ ram a
    exact ⟨screen, drawn, ram, left, shows⟩
  write := by
    rintro _ ⟨screen, source, ram, rfl, shows⟩ a b
    exact pictured_write layout screen source shows a b
  peek := by
    rintro _ ⟨screen, source, ram, rfl, shows⟩ a
    exact ⟨screen, source, ram, rfl, shows⟩

/-- A key is pressed at the outermost screen. -/
def press (code : Byte) : Memory Screen → Memory Screen := modifyDevice (·.setInput code)

theorem pictured_press (code : Byte) {memory : Memory Screen}
    (h : memory.Pictured layout width height) : (memory.press code).Pictured layout width height := by
  obtain ⟨screen, source, ram, rfl, shows⟩ := h
  exact ⟨screen.setInput code, source, ram, rfl, shows⟩

end Memory

/-- Whatever is done to a new machine under a blank screen, each place of the frame that has a cell
shows the color of the byte a peek finds there, and the places without a cell stay blank. -/
theorem Machine.screen_shows (layout : Layout) (width height : UInt16) (input : Byte)
    (source : Random.Source) (set : InstructionSet) (commands : List (Command Byte)) :
    let start : Memory Screen :=
      .layered ⟨layout, .blank width height input, source⟩ (.plain .blank)
    let m := (Machine.new start set).obeyAll Memory.press commands
    ∃ screen, m.core.seq.bus.outer?.map Layer.device = some screen ∧
      (∀ a x y, layout.position? a = some (x, y) → x < width ∧ y < height →
        screen.frame.pixel? x y = some ((m.peek a).1 % max layout.colors 1)) ∧
      ∀ x y, (∀ a, layout.position? a ≠ some (x, y)) → x < width ∧ y < height →
        screen.frame.pixel? x y = some 0 := by
  intro start m
  have before : start.Pictured layout width height :=
    ⟨.blank width height input, source, .blank, rfl, .blank layout width height⟩
  have now : m.core.seq.bus.Pictured layout width height :=
    obeyAll_kept Memory.kept_pictured Memory.pictured_press (m := .new start set) before commands
  clear_value m
  obtain ⟨⟨cpu, ⟨bus, pc, sp⟩⟩, set, halted, steps⟩ := m
  obtain ⟨screen, source, ram, rfl, shows⟩ := now
  exact ⟨screen, rfl, fun a x y => shows.cell, fun x y => shows.rest⟩

end Console6502
