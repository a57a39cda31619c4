import Console6502.Proofs.Picture

namespace Console6502

namespace Frame

/-- A table of characters as lines of text. -/
def grid (width height : Nat) (char : Nat → Nat → Char) : String :=
  String.ofList ((List.range height).flatMap fun y => (List.range width).map (char · y) ++ ['\n'])

theorem grid_congr {width height : Nat} {first last : Nat → Nat → Char}
    (same : ∀ x < width, ∀ y < height, first x y = last x y) :
    grid width height first = grid width height last := by
  unfold grid
  rw [List.flatMap_def, List.flatMap_def]
  congr 2
  apply List.map_congr_left
  intro y hy
  congr 1
  apply List.map_congr_left
  intro x hx
  exact same x (List.mem_range.mp hx) y (List.mem_range.mp hy)

theorem rows_eq (width count : Nat) (cells : List Byte) :
    rows width count cells =
      (List.range count).map fun y => (cells.drop (y * width)).take width := by
  induction count generalizing cells with
  | zero => rfl
  | succ count ih =>
    rw [rows, ih, List.range_succ_eq_map, List.map_cons, List.map_map, Nat.zero_mul, List.drop_zero]
    congr 1
    apply List.map_congr_left
    intro y _
    rw [List.drop_drop, Function.comp, Nat.succ_mul, Nat.add_comm]

/-- A piece of a list, byte by byte. -/
theorem take_drop_eq {cells : List Byte} {start width : Nat} (fits : start + width ≤ cells.length) :
    (cells.drop start).take width = (List.range width).map fun x => cells.getD (start + x) 0 := by
  apply List.ext_getElem
  · simp
    omega
  · intro x hx hx'
    rw [List.getElem_take, List.getElem_drop, List.getElem_map, List.getElem_range]
    exact List.getElem_eq_getD 0

theorem pixel?_eq_getD (f : Frame) {x y : Nat} (hx : x < f.width.toNat) (hy : y < f.height.toNat) :
    f.pixel? (UInt16.ofNat x) (UInt16.ofNat y) =
      some (f.cells.toList.getD (y * f.width.toNat + x) 0) := by
  have column : (UInt16.ofNat x).toNat = x :=
    UInt16.toNat_ofNat_of_lt' (Nat.lt_trans hx f.width.toNat_lt)
  have row : (UInt16.ofNat y).toNat = y :=
    UInt16.toNat_ofNat_of_lt' (Nat.lt_trans hy f.height.toNat_lt)
  have inside : UInt16.ofNat x < f.width ∧ UInt16.ofNat y < f.height := by
    rw [UInt16.lt_iff_toNat_lt, UInt16.lt_iff_toNat_lt, column, row]
    exact ⟨hx, hy⟩
  have place : y * f.width.toNat + x < f.cells.toList.length := by
    have cell := cell_lt inside
    rw [column, row] at cell
    simpa using cell
  rw [pixel?, dif_pos inside]
  simp only [column, row]
  rw [← Vector.getElem_toList place]
  exact congrArg some (List.getElem_eq_getD 0)

/-- A frame with columns is shown as one line for each row, with one character for each pixel. -/
theorem render_eq {f : Frame} (columns : f.width ≠ 0) (color : Nat → Nat → Byte)
    (pixels : ∀ x < f.width.toNat, ∀ y < f.height.toNat,
      f.pixel? (UInt16.ofNat x) (UInt16.ofNat y) = some (color x y)) :
    f.render = grid f.width.toNat f.height.toNat fun x y => glyph (color x y) := by
  have lines : f.render = grid f.width.toNat f.height.toNat fun x y =>
      glyph (f.cells.toList.getD (y * f.width.toNat + x) 0) := by
    rw [render, if_neg columns, rows_eq]
    unfold grid
    rw [List.flatMap_map, List.flatMap_def, List.flatMap_def]
    congr 2
    apply List.map_congr_left
    intro y hy
    rw [List.mem_range] at hy
    have inside : y * f.width.toNat + f.width.toNat ≤ f.cells.toList.length := by
      have rows := Nat.mul_le_mul_right f.width.toNat (Nat.succ_le_of_lt hy)
      rw [Nat.succ_mul] at rows
      simpa using rows
    rw [line, take_drop_eq inside, List.map_map]
    rfl
  rw [lines]
  apply grid_congr
  intro x hx y hy
  have known := pixels x hx y hy
  rw [f.pixel?_eq_getD hx hy, Option.some.injEq] at known
  exact congrArg glyph known

end Frame

end Console6502
