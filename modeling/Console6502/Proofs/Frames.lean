import Console6502.Proofs.Drawing
import Console6502.Proofs.Rendering

namespace Console6502

/-- The colors that are sent to a place, in order. -/
def Pixel.colorsAt (pixels : List Pixel) (x y : UInt16) : List Byte :=
  pixels.filterMap fun p => if p.x = x ∧ p.y = y then some p.color else none

namespace Frame

theorem pixel?_of_inside (f : Frame) {x y : UInt16} (inside : x < f.width ∧ y < f.height) :
    f.pixel? x y = f.cells.toList[y.toNat * f.width.toNat + x.toNat]? := by
  have place := cell_lt inside
  rw [pixel?, dif_pos inside, List.getElem?_eq_getElem (by simpa using place)]
  simp

theorem pixel?_of_outside (f : Frame) {x y : UInt16} (outside : ¬ (x < f.width ∧ y < f.height)) :
    f.pixel? x y = none :=
  dif_neg outside

/-- A pixel inside the frame changes its own cell. -/
theorem cells_draw (f : Frame) {x y : UInt16} (inside : x < f.width ∧ y < f.height) (color : Byte) :
    (f.draw ⟨x, y, color⟩).cells.toList =
      f.cells.toList.set (y.toNat * f.width.toNat + x.toNat) color := by
  obtain ⟨width, height, cells, writes⟩ := f
  have drawn : draw ⟨width, height, cells, writes⟩ ⟨x, y, color⟩ =
      ⟨width, height, cells.set _ color (cell_lt inside), writes + 1⟩ := dif_pos inside
  rw [drawn]
  exact Vector.toList_set (cell_lt inside)

/-- A place keeps the color that it was sent last. -/
theorem pixel?_foldl_draw (f : Frame) (pixels : List Pixel) (x y : UInt16) :
    (pixels.foldl draw f).pixel? x y =
      (f.pixel? x y).map fun old => (Pixel.colorsAt pixels x y).getLastD old := by
  induction pixels generalizing f with
  | nil => simp [Pixel.colorsAt]
  | cons p pixels ih =>
    rw [List.foldl_cons, ih, pixel?_draw]
    by_cases here : p.x = x ∧ p.y = y
    · have colors : Pixel.colorsAt (p :: pixels) x y = p.color :: Pixel.colorsAt pixels x y := by
        simp [Pixel.colorsAt, here]
      by_cases inside : x < f.width ∧ y < f.height
      · rw [if_pos ⟨here, inside⟩, colors, pixel?, dif_pos inside]
        exact congrArg some List.getLastD_cons.symm
      · rw [if_neg (mt And.right inside), f.pixel?_of_outside inside]
        rfl
    · have colors : Pixel.colorsAt (p :: pixels) x y = Pixel.colorsAt pixels x y := by
        simp [Pixel.colorsAt, here]
      rw [if_neg (mt And.left here), colors]

theorem foldl_draw_size (f : Frame) (pixels : List Pixel) :
    (pixels.foldl draw f).width = f.width ∧ (pixels.foldl draw f).height = f.height := by
  induction pixels generalizing f with
  | nil => exact ⟨rfl, rfl⟩
  | cons p pixels ih =>
    obtain ⟨width, height⟩ := ih (f.draw p)
    exact ⟨width.trans (f.draw_width p), height.trans (f.draw_height p)⟩

/-- Of the sixteen characters a pixel has the one with the number of its color. -/
theorem glyph_eq (color : Byte) :
    " #%&*+=-:o@OX$~.".toList[color.toNat % 16]? = some (glyph color) := by
  have all : ∀ i, (h : i < 16) → " #%&*+=-:o@OX$~.".toList[i]? = some palette[i] := by decide
  exact all _ (Nat.mod_lt _ (by decide))

theorem glyph_ne_newline (color : Byte) : glyph color ≠ '\n' := by
  have all : ∀ i, (h : i < 16) → palette[i] ≠ '\n' := by decide
  exact all _ (Nat.mod_lt _ (by decide))

/-- The rows of a frame as text. -/
def lines (f : Frame) : List (List Char) :=
  (List.range f.height.toNat).map fun y => (List.range f.width.toNat).map fun x =>
    glyph ((f.pixel? (UInt16.ofNat x) (UInt16.ofNat y)).getD 0)

theorem render_lines {f : Frame} (columns : f.width ≠ 0) :
    f.render = String.ofList (f.lines.flatMap (· ++ ['\n'])) := by
  have pixels : ∀ x < f.width.toNat, ∀ y < f.height.toNat,
      f.pixel? (UInt16.ofNat x) (UInt16.ofNat y) =
        some ((f.pixel? (UInt16.ofNat x) (UInt16.ofNat y)).getD 0) := by
    intro x hx y hy
    rw [f.pixel?_eq_getD hx hy]
    rfl
  rw [render_eq columns _ pixels, lines, List.flatMap_map]
  rfl

theorem mem_lines {f : Frame} {line : List Char} (h : line ∈ f.lines) :
    line.length = f.width.toNat ∧ '\n' ∉ line := by
  obtain ⟨y, -, rfl⟩ := List.mem_map.mp h
  refine ⟨by simp, ?_⟩
  intro newline
  obtain ⟨x, -, same⟩ := List.mem_map.mp newline
  exact glyph_ne_newline _ same

theorem getElem?_lines (f : Frame) (x y : UInt16) :
    f.lines[y.toNat]?.bind (·[x.toNat]?) = (f.pixel? x y).map glyph := by
  by_cases inside : x < f.width ∧ y < f.height
  · have column := UInt16.lt_iff_toNat_lt.mp inside.1
    have row := UInt16.lt_iff_toNat_lt.mp inside.2
    have shown : f.pixel? x y = some ((f.pixel? x y).getD 0) := by
      rw [pixel?, dif_pos inside]
      rfl
    rw [shown]
    simp [lines, column, row]
  · rw [f.pixel?_of_outside inside]
    simp only [UInt16.lt_iff_toNat_lt] at inside
    by_cases row : y.toNat < f.height.toNat
    · have column : ¬ x.toNat < f.width.toNat := fun column => inside ⟨column, row⟩
      simp [lines, row, column]
    · simp [lines, row]

/-- After any pixels were drawn on a blank frame, each place inside shows the color that it was sent
last and is blank if it was sent none, and each cell number lies within the cells. All pixels are
counted. The text has a line for each row, each of them with one character for each pixel. -/
theorem remembers (width height : UInt16) (pixels : List Pixel) :
    let f := pixels.foldl draw (blank width height)
    (∀ x y, f.pixel? x y =
        if width ≤ x ∨ height ≤ y then none else some ((Pixel.colorsAt pixels x y).getLastD 0)) ∧
      f.cells.toList.length = width.toNat * height.toNat ∧
      (∀ x y, x < width ∧ y < height →
        let cell := y.toNat * width.toNat + x.toNat
        cell < width.toNat * height.toNat ∧ f.pixel? x y = f.cells.toList[cell]? ∧
          ∀ color, (f.draw ⟨x, y, color⟩).cells.toList = f.cells.toList.set cell color) ∧
      f.writes = pixels.length ∧
      (if width = 0 then f.render = ""
        else ∃ lines : List (List Char),
          f.render = String.ofList (lines.flatMap (· ++ ['\n'])) ∧
            lines.length = height.toNat ∧
            (∀ line ∈ lines, line.length = width.toNat ∧ '\n' ∉ line) ∧
            ∀ x y : UInt16, lines[y.toNat]?.bind (·[x.toNat]?) =
              (f.pixel? x y).bind fun color => " #%&*+=-:o@OX$~.".toList[color.toNat % 16]?) := by
  intro f
  obtain ⟨columns, rows⟩ : f.width = width ∧ f.height = height := foldl_draw_size _ pixels
  refine ⟨?_, ?_, ?_, ?_, ?_⟩
  · intro x y
    have outside : width ≤ x ∨ height ≤ y ↔ ¬ (x < width ∧ y < height) := by
      simp only [UInt16.le_iff_toNat_le, UInt16.lt_iff_toNat_lt]
      omega
    rw [pixel?_foldl_draw, pixel?_blank, ite_cond_congr (propext outside)]
    split <;> simp_all
  · rw [Vector.length_toList, columns, rows, Nat.mul_comm]
  · intro x y inside cell
    have drawn : x < f.width ∧ y < f.height := by
      rw [columns, rows]
      exact inside
    have place : cell < height.toNat * width.toNat := cell_lt inside
    have read := f.pixel?_of_inside drawn
    have write := f.cells_draw drawn
    have here : y.toNat * f.width.toNat + x.toNat = cell :=
      congrArg (y.toNat * ·.toNat + x.toNat) columns
    rw [here] at read write
    rw [Nat.mul_comm] at place
    exact ⟨place, read, write⟩
  · rw [foldl_draw_writes]
    exact Nat.zero_add _
  · by_cases none : width = 0
    · rw [if_pos none]
      exact if_pos (columns.trans none)
    · rw [if_neg none]
      refine ⟨f.lines, render_lines (columns ▸ none), ?_, ?_, ?_⟩
      · rw [lines, List.length_map, List.length_range, rows]
      · intro line h
        rw [← columns]
        exact mem_lines h
      · intro x y
        rw [getElem?_lines, Option.map_eq_bind]
        simp only [glyph_eq]
        rfl

end Frame

end Console6502
