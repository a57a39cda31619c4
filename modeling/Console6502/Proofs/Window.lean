import Console6502.Memory.Layout

namespace Console6502.Layout

/-- No display is so large that its area would wrap. -/
theorem toNat_area (l : Layout) : l.area.toNat = l.width.toNat * l.height.toNat := by
  have fits : l.width.toNat * l.height.toNat < 2 ^ 16 * 2 ^ 16 :=
    Nat.mul_lt_mul'' l.width.toNat_lt l.height.toNat_lt
  rw [area, UInt32.toNat_mul, UInt16.toNat_toUInt32, UInt16.toNat_toUInt32]
  exact Nat.mod_eq_of_lt fits

/-- A place in the window is the distance from its start, cut into rows. -/
theorem position?_eq (l : Layout) (a : Address) :
    l.position? a =
      if l.start.toNat ≤ a.toNat ∧
          a.toNat - l.start.toNat < l.width.toNat * l.height.toNat then
        some (UInt16.ofNat ((a.toNat - l.start.toNat) % l.width.toNat),
          UInt16.ofNat ((a.toNat - l.start.toNat) / l.width.toNat))
      else none := by
  by_cases before : a < l.start
  · have outside : ¬ l.start.toNat ≤ a.toNat := Nat.not_le.mpr (UInt16.lt_iff_toNat_lt.mp before)
    simp [position?, before, outside]
  · have behind : l.start.toNat ≤ a.toNat := Nat.not_lt.mp (mt UInt16.lt_iff_toNat_lt.mpr before)
    have offset : (a - l.start).toUInt32.toNat = a.toNat - l.start.toNat := by
      rw [UInt16.toNat_toUInt32, UInt16.toNat_sub_of_le _ _ (UInt16.le_iff_toNat_le.mpr behind)]
    have outside : l.area ≤ (a - l.start).toUInt32 ∨ l.width = 0 ↔
        ¬ a.toNat - l.start.toNat < l.width.toNat * l.height.toNat := by
      rw [UInt32.le_iff_toNat_le, toNat_area, offset, Nat.not_lt]
      constructor
      · rintro (beyond | empty)
        · exact beyond
        · simp [empty]
      · exact Or.inl
    by_cases inside : a.toNat - l.start.toNat < l.width.toNat * l.height.toNat
    · simp only [position?, before, outside, behind, inside, not_true_eq_false, if_false,
        and_self, if_true]
      congr 2
      · apply UInt16.toNat_inj.mp
        rw [UInt32.toNat_toUInt16, UInt32.toNat_mod, offset, UInt16.toNat_toUInt32,
          UInt16.toNat_ofNat']
      · apply UInt16.toNat_inj.mp
        rw [UInt32.toNat_toUInt16, UInt32.toNat_div, offset, UInt16.toNat_toUInt32,
          UInt16.toNat_ofNat']
    · simp only [position?, before, outside, inside, not_false_eq_true, if_false, and_false, if_true]

/-- A cell shows a place just if it lies so many rows and columns behind the start, with no wrap at
the end of memory. -/
theorem position?_eq_some_iff (l : Layout) (a : Address) (x y : UInt16) :
    l.position? a = some (x, y) ↔
      x.toNat < l.width.toNat ∧ y.toNat < l.height.toNat ∧
        l.start.toNat + (y.toNat * l.width.toNat + x.toNat) = a.toNat := by
  have hx := x.toNat_lt
  have hy := y.toNat_lt
  have hw := l.width.toNat_lt
  have hh := l.height.toNat_lt
  rw [position?_eq]
  constructor
  · intro h
    split at h
    case isFalse => cases h
    case isTrue inside =>
      obtain ⟨behind, inside⟩ := inside
      have positive : 0 < l.width.toNat := Nat.pos_of_lt_mul_right inside
      have column : (a.toNat - l.start.toNat) % l.width.toNat < l.width.toNat :=
        Nat.mod_lt _ positive
      have row : (a.toNat - l.start.toNat) / l.width.toNat < l.height.toNat :=
        Nat.div_lt_of_lt_mul inside
      simp only [Option.some.injEq, Prod.mk.injEq, ← UInt16.toNat_inj, UInt16.toNat_ofNat',
        Nat.mod_eq_of_lt (Nat.lt_trans column hw), Nat.mod_eq_of_lt (Nat.lt_trans row hh)] at h
      obtain ⟨hcolumn, hrow⟩ := h
      obtain ⟨place, -⟩ := (Nat.div_mod_unique positive).mp ⟨hrow, hcolumn⟩
      rw [Nat.mul_comm] at place
      exact ⟨hcolumn ▸ column, hrow ▸ row, by omega⟩
  · rintro ⟨column, row, place⟩
    have positive : 0 < l.width.toNat := Nat.zero_lt_of_lt column
    have offset : x.toNat + l.width.toNat * y.toNat = a.toNat - l.start.toNat := by
      rw [Nat.mul_comm]
      omega
    obtain ⟨hrow, hcolumn⟩ := (Nat.div_mod_unique positive).mpr ⟨offset, column⟩
    have inside : a.toNat - l.start.toNat < l.width.toNat * l.height.toNat := by
      rw [Nat.mul_comm, ← Nat.div_lt_iff_lt_mul positive, hrow]
      exact row
    have behind : l.start.toNat ≤ a.toNat := by omega
    simp only [behind, inside, and_self, if_true, hrow, hcolumn, UInt16.ofNat_toNat]

/-- No two cells show the same place. -/
theorem position?_injective (l : Layout) {a b : Address} {p : UInt16 × UInt16}
    (ha : l.position? a = some p) (hb : l.position? b = some p) : a = b := by
  obtain ⟨x, y⟩ := p
  obtain ⟨-, -, placeA⟩ := (l.position?_eq_some_iff a x y).mp ha
  obtain ⟨-, -, placeB⟩ := (l.position?_eq_some_iff b x y).mp hb
  exact UInt16.toNat_inj.mp (placeA.symm.trans placeB)

end Console6502.Layout
