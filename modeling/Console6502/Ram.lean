import Console6502.Bus

namespace Console6502

/-- Plain memory: every cell holds the byte last written to it. -/
structure Ram where
  pages : Vector (Vector Byte 256) 256

namespace Ram

def blank : Ram := ⟨Vector.replicate 256 (Vector.replicate 256 0)⟩

theorem page_lt (a : Address) : a.toNat / 256 < 256 := by
  have h := a.toNat_lt
  omega

theorem cell_lt (a : Address) : a.toNat % 256 < 256 := Nat.mod_lt _ (by decide)

def get (ram : Ram) (a : Address) : Byte :=
  have := page_lt a
  have := cell_lt a
  ram.pages[a.toNat / 256][a.toNat % 256]

def set (ram : Ram) (a : Address) (b : Byte) : Ram :=
  have hp := page_lt a
  have hc := cell_lt a
  match ram with
  | ⟨pages⟩ => ⟨pages.set (a.toNat / 256) (pages[a.toNat / 256].set (a.toNat % 256) b hc) hp⟩

theorem get_blank (a : Address) : blank.get a = 0 := by
  simp [get, blank]

theorem get_set (ram : Ram) (a c : Address) (b : Byte) :
    (ram.set a b).get c = if a = c then b else ram.get c := by
  have split : a = c ↔ a.toNat / 256 = c.toNat / 256 ∧ a.toNat % 256 = c.toNat % 256 := by
    rw [← UInt16.toNat_inj]
    omega
  simp only [get, set, Vector.getElem_set]
  by_cases hp : a.toNat / 256 = c.toNat / 256
  · by_cases hc : a.toNat % 256 = c.toNat % 256
    · simp [split, hp, hc]
    · simp [split, hp, hc]
  · simp [split, hp]

theorem get_set_self (ram : Ram) (a : Address) (b : Byte) : (ram.set a b).get a = b := by
  simp [get_set]

theorem get_set_other (ram : Ram) (b : Byte) (h : a ≠ c) : (ram.set a b).get c = ram.get c := by
  simp [get_set, h]

theorem ext {r s : Ram} (h : ∀ a, r.get a = s.get a) : r = s := by
  obtain ⟨p⟩ := r
  obtain ⟨q⟩ := s
  congr 1
  apply Vector.ext
  intro i hi
  apply Vector.ext
  intro j hj
  have ha := h (UInt16.ofNat (256 * i + j))
  have hn : (UInt16.ofNat (256 * i + j)).toNat = 256 * i + j := by
    rw [UInt16.toNat_ofNat']
    omega
  have hd : (256 * i + j) / 256 = i := by omega
  have hm : (256 * i + j) % 256 = j := by omega
  simpa only [get, hn, hd, hm] using ha

end Ram

instance : Bus Ram where
  read ram a := (ram.get a, ram)
  write := Ram.set
  peek ram a := (ram.get a, ram)

end Console6502
