import Console6502.Proofs.Operands
import Console6502.Ram

namespace Console6502

namespace Address

theorem length_cells (a : Address) (count : Nat) : (a.cells count).length = count := by
  induction count generalizing a with
  | zero => rfl
  | succ count ih => simp [cells, ih]

theorem add_one_add (a : Address) (i : Nat) :
    a + 1 + UInt16.ofNat i = a + UInt16.ofNat (i + 1) := by
  rw [UInt16.ofNat_add, UInt16.add_assoc, UInt16.add_comm 1]
  rfl

theorem cells_add (a : Address) (m n : Nat) :
    a.cells (m + n) = a.cells m ++ (a + UInt16.ofNat m).cells n := by
  induction m generalizing a with
  | zero => simp [cells]
  | succ m ih => rw [Nat.succ_add, cells, cells, ih, add_one_add, List.cons_append]

theorem mem_cells {a origin : Address} {count : Nat} :
    a ∈ origin.cells count ↔ ∃ i < count, a = origin + UInt16.ofNat i := by
  induction count with
  | zero => simp [cells]
  | succ count ih =>
    have split : origin.cells (count + 1) = origin.cells count ++ [origin + UInt16.ofNat count] :=
      origin.cells_add count 1
    rw [split, List.mem_append, ih, List.mem_singleton]
    constructor
    · rintro (⟨i, hi, here⟩ | last)
      · exact ⟨i, Nat.lt_succ_of_lt hi, here⟩
      · exact ⟨count, Nat.lt_succ_self count, last⟩
    · rintro ⟨i, hi, here⟩
      rcases Nat.lt_succ_iff_lt_or_eq.mp hi with before | rfl
      · exact .inl ⟨i, before, here⟩
      · exact .inr here

theorem toNat_add_ofNat (a : Address) (i : Nat) :
    (a + UInt16.ofNat i).toNat = (a.toNat + i) % 65536 := by
  rw [UInt16.toNat_add, UInt16.toNat_ofNat']
  omega

/-- It takes the whole of memory to come back to a cell. -/
theorem not_mem_cells_succ (a : Address) {count : Nat} (fits : count < 65536) :
    a ∉ (a + 1).cells count := by
  intro back
  obtain ⟨i, hi, same⟩ := mem_cells.mp back
  have next : a.toNat = ((a.toNat + 1) % 65536 + i) % 65536 := by
    have here := congrArg UInt16.toNat same
    rw [toNat_add_ofNat, UInt16.toNat_add] at here
    exact here
  have ha := a.toNat_lt
  omega

end Address

/-- What is written when an image is loaded. -/
def imageWrites (image : List Byte) (origin : Address) : List (Address × Byte) :=
  (origin.cells image.length).zip image

theorem Sequencer.load_eq {M : Type} [Bus M] (s : Sequencer M) (image : List Byte)
    (origin : Address) :
    s.load image origin = { s with bus := Bus.writeAll s.bus (imageWrites image origin) } := by
  induction image generalizing s origin with
  | nil => rfl
  | cons b image ih => exact ih (s.set origin b) (origin + 1)

/-- The loading of an image, access by access. -/
def imageAccesses (image : List Byte) (origin : Address) : List Access :=
  (imageWrites image origin).map fun (a, b) => .write a b

theorem Sequencer.load_bus {M : Type} [Bus M] (s : Sequencer M) (image : List Byte)
    (origin : Address) :
    (s.load image origin).bus = Bus.perform s.bus (imageAccesses image origin) := by
  rw [load_eq, imageAccesses, Bus.perform_writes]

theorem imageWrites_fst (image : List Byte) (origin : Address) :
    (imageWrites image origin).map Prod.fst = origin.cells image.length := by
  rw [imageWrites, List.map_fst_zip]
  exact Nat.le_of_eq (Address.length_cells origin image.length)

namespace Ram

theorem readAll_eq (ram : Ram) (cells : List Address) :
    Bus.readAll ram cells = (cells.map ram.get, ram) := by
  induction cells with
  | nil => rfl
  | cons a cells ih =>
    simp only [Bus.readAll, Bus.read, ih, List.map_cons]

theorem get_writeAll_other (ram : Ram) {writes : List (Address × Byte)} {a : Address}
    (other : a ∉ writes.map Prod.fst) : (Bus.writeAll ram writes).get a = ram.get a := by
  induction writes generalizing ram with
  | nil => rfl
  | cons w writes ih =>
    obtain ⟨here, rest⟩ := not_or.mp (mt List.mem_cons.mpr other)
    exact (ih (ram.set w.1 w.2) rest).trans (ram.get_set_other w.2 (Ne.symm here))

/-- These bytes are found from an address on. -/
def Contains (ram : Ram) (a : Address) (bytes : List Byte) : Prop :=
  (a.cells bytes.length).map ram.get = bytes

variable {ram : Ram} {a : Address}

theorem contains_cons {b : Byte} {bytes : List Byte} :
    ram.Contains a (b :: bytes) ↔ ram.get a = b ∧ ram.Contains (a + 1) bytes :=
  List.cons_eq_cons

theorem Contains.append {first last : List Byte} (h : ram.Contains a (first ++ last)) :
    ram.Contains a first ∧ ram.Contains (a + UInt16.ofNat first.length) last := by
  unfold Contains at h
  rw [List.length_append, Address.cells_add, List.map_append] at h
  apply List.append_inj h
  rw [List.length_map, Address.length_cells]

theorem Contains.writeAll {bytes : List Byte} (h : ram.Contains a bytes)
    {writes : List (Address × Byte)}
    (other : ∀ c ∈ writes.map Prod.fst, c ∉ a.cells bytes.length) :
    Ram.Contains (Bus.writeAll ram writes) a bytes := by
  refine Eq.trans ?_ h
  apply List.map_congr_left
  intro c hc
  exact ram.get_writeAll_other fun written => other c written hc

/-- An image that fits is found where it was loaded. -/
theorem contains_image (ram : Ram) (image : List Byte) (origin : Address)
    (fits : image.length ≤ 65536) :
    Ram.Contains (Bus.writeAll ram (imageWrites image origin)) origin image := by
  induction image generalizing ram origin with
  | nil => rfl
  | cons b image ih =>
    have behind : origin ∉ (imageWrites image (origin + 1)).map Prod.fst := by
      rw [imageWrites_fst]
      exact origin.not_mem_cells_succ fits
    have first :
        (Bus.writeAll (ram.set origin b) (imageWrites image (origin + 1))).get origin = b := by
      rw [get_writeAll_other _ behind, get_set_self]
    have rest := ih (ram.set origin b) (origin + 1) (Nat.le_of_succ_le fits)
    exact contains_cons.mpr ⟨first, rest⟩

end Ram

end Console6502
