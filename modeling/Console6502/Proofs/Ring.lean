import Console6502.Proofs.Images
import Console6502.Proofs.Stack

namespace Console6502

/-- The address that an access is made to. -/
def Access.address : Access → Address
  | read a => a
  | write a _ => a

namespace Sequencer

section

variable {M : Type} [Bus M]

/-- Pushes bytes, the first one first. -/
def pushAll (s : Sequencer M) (bytes : List Byte) : Sequencer M := bytes.foldl push s

/-- Pulls so many bytes, one after another. -/
def pullMany (s : Sequencer M) : (count : Nat) → List Byte × Sequencer M
  | 0 => ([], s)
  | count + 1 =>
    let (b, s) := s.pull
    let (bytes, s) := s.pullMany count
    (b :: bytes, s)

/-- The cells that are pulled from. -/
def pulledCells (sp : Byte) : (count : Nat) → List Address
  | 0 => []
  | count + 1 => stackCell sp :: pulledCells (sp + 1) count

/-- What is stored by pushing bytes. -/
def pushedWrites (sp : Byte) : List Byte → List (Address × Byte)
  | [] => []
  | b :: bytes => (stackCell (sp - 1), b) :: pushedWrites (sp - 1) bytes

/-- Bytes that are pushed and then so many pulled, access by access. -/
def ringAccesses (sp : Byte) (bytes : List Byte) (count : Nat) : List Access :=
  (pushedWrites sp bytes).map (fun (a, b) => .write a b) ++
    (pulledCells (sp - UInt8.ofNat bytes.length) count).map .read

theorem lowered_one (sp : Byte) (depth : Nat) :
    sp - 1 - UInt8.ofNat depth = sp - UInt8.ofNat (depth + 1) := by
  rw [UInt8.ofNat_add]
  grind

theorem raised_one (sp : Byte) (height : Nat) :
    sp + 1 + UInt8.ofNat height = sp + UInt8.ofNat (height + 1) := by
  rw [UInt8.ofNat_add]
  grind

theorem pushAll_eq (s : Sequencer M) (bytes : List Byte) :
    s.pushAll bytes =
      ⟨Bus.writeAll s.bus (pushedWrites s.sp bytes), s.pc, s.sp - UInt8.ofNat bytes.length⟩ := by
  induction bytes generalizing s with
  | nil => exact congrArg (Sequencer.mk s.bus s.pc) (UInt8.sub_zero s.sp).symm
  | cons b bytes ih =>
    change (s.push b).pushAll bytes = _
    rw [ih, List.length_cons, ← lowered_one]
    rfl

theorem pullMany_eq (s : Sequencer M) (count : Nat) :
    s.pullMany count =
      let (bytes, bus) := Bus.readAll s.bus (pulledCells s.sp count)
      (bytes, ⟨bus, s.pc, s.sp + UInt8.ofNat count⟩) := by
  induction count generalizing s with
  | zero => exact congrArg (([] : List Byte), Sequencer.mk s.bus s.pc ·) (UInt8.add_zero s.sp).symm
  | succ count ih =>
    change (s.pull.1 :: (s.pull.2.pullMany count).1, (s.pull.2.pullMany count).2) = _
    rw [ih, ← raised_one]
    rfl

/-- Nothing else is done to the bus than the accesses of the single pushes and pulls. -/
theorem ring_bus (s : Sequencer M) (bytes : List Byte) (count : Nat) :
    ((s.pushAll bytes).pullMany count).2.bus =
      Bus.perform s.bus (ringAccesses s.sp bytes count) := by
  rw [pushAll_eq, pullMany_eq, ringAccesses, Bus.perform_append, Bus.perform_writes,
    Bus.perform_reads]

end

theorem pulledCells_eq (sp : Byte) (count : Nat) :
    pulledCells sp count = (List.range count).map fun i => stackCell (sp + UInt8.ofNat i) := by
  induction count generalizing sp with
  | zero => rfl
  | succ count ih =>
    have first : sp + UInt8.ofNat 0 = sp := UInt8.add_zero sp
    rw [pulledCells, ih, List.range_succ_eq_map, List.map_cons, List.map_map, first]
    simp only [raised_one]
    rfl

theorem pushedWrites_onStack (sp : Byte) (bytes : List Byte) :
    ∀ w ∈ pushedWrites sp bytes, w.1.OnStack := by
  induction bytes generalizing sp with
  | nil => simp [pushedWrites]
  | cons b bytes ih =>
    intro w hw
    rcases List.mem_cons.mp hw with rfl | rest
    · exact stackCell_onStack _
    · exact ih (sp - 1) w rest

theorem ringAccesses_onStack (sp : Byte) (bytes : List Byte) (count : Nat) :
    ∀ access ∈ ringAccesses sp bytes count, access.address.OnStack := by
  intro access made
  rcases List.mem_append.mp made with stored | taken
  · obtain ⟨w, hw, rfl⟩ := List.mem_map.mp stored
    exact pushedWrites_onStack sp bytes w hw
  · rw [pulledCells_eq] at taken
    obtain ⟨a, ha, rfl⟩ := List.mem_map.mp taken
    obtain ⟨i, -, rfl⟩ := List.mem_map.mp ha
    exact stackCell_onStack _

theorem stackCell_inj {p q : Byte} : stackCell p = stackCell q ↔ p = q := by
  rw [← UInt16.toNat_inj, ← UInt8.toNat_inj, toNat_stackCell, toNat_stackCell]
  omega

/-- How far a cell lies above a stack pointer that was lowered, around the ring. -/
theorem toNat_above (p sp : Byte) (depth : Nat) :
    ((p - (sp - UInt8.ofNat depth)).toNat : Int) = (p.toNat - sp.toNat + depth) % 256 := by
  have low := toNat_lowered sp depth
  have hp := p.toNat_lt
  rw [UInt8.toNat_sub]
  omega

/-- One more element at the end of a list is a default for what lies just behind it. -/
theorem getD_concat {bytes : List Byte} {b x old : Byte} {d : Nat}
    (last : d = bytes.length → x = b) (behind : bytes.length < d → x = old) :
    (bytes ++ [b]).getD d old = bytes.getD d x := by
  rcases Nat.lt_trichotomy d bytes.length with inside | rfl | outside
  · simp [List.getElem?_append_left inside, List.getElem?_eq_getElem inside]
  · simp [last]
  · have longer : (bytes ++ [b]).length ≤ d := by
      rw [List.length_append]
      exact outside
    rw [List.getD_eq_getElem?_getD, List.getD_eq_getElem?_getD, List.getElem?_eq_none longer,
      List.getElem?_eq_none (Nat.le_of_lt outside)]
    exact (behind outside).symm

/-- After pushes, each cell holds the byte that was pushed as many bytes before the last one as the
cell lies above it, or else what it held before. No cell is further away than the ring is long. -/
theorem get_pushAll (s : Sequencer Ram) (bytes : List Byte) (p : Byte) :
    (s.pushAll bytes).bus.get (stackCell p) =
      bytes.reverse.getD (p - (s.sp - UInt8.ofNat bytes.length)).toNat
        (s.bus.get (stackCell p)) := by
  induction bytes generalizing s with
  | nil => rfl
  | cons b bytes ih =>
    have stored : (s.push b).bus.get (stackCell p) =
        if stackCell (s.sp - 1) = stackCell p then b else s.bus.get (stackCell p) :=
      s.bus.get_set _ _ b
    have pushed := ih (s.push b)
    change ((s.push b).pushAll bytes).bus.get (stackCell p) =
      bytes.reverse.getD (p - (s.sp - 1 - UInt8.ofNat bytes.length)).toNat _ at pushed
    change ((s.push b).pushAll bytes).bus.get (stackCell p) = _
    rw [pushed, stored, lowered_one, List.reverse_cons, List.length_cons]
    have distance := toNat_above p s.sp (bytes.length + 1)
    generalize (p - (s.sp - UInt8.ofNat (bytes.length + 1))).toNat = d at distance ⊢
    have first : ((s.sp - 1).toNat : Int) = (s.sp.toNat - 1) % 256 := toNat_lowered s.sp 1
    have hp := p.toNat_lt
    refine (getD_concat ?_ ?_).symm
    · intro last
      rw [List.length_reverse] at last
      have here : s.sp - 1 = p := by
        apply UInt8.toNat_inj.mp
        omega
      exact if_pos (congrArg stackCell here)
    · intro behind
      rw [List.length_reverse] at behind
      have other : s.sp - 1 ≠ p := by
        intro here
        rw [← here] at distance
        omega
      exact if_neg (mt stackCell_inj.mp other)

/-- What is pulled after pushes: the bytes from the last one back, once around the ring and again,
and the old bytes where nothing was pushed. -/
theorem pulled_eq (s : Sequencer Ram) (bytes : List Byte) (count : Nat) :
    ((s.pushAll bytes).pullMany count).1 = (List.range count).map fun i =>
      bytes.reverse.getD (i % 256)
        (s.bus.get (stackCell (s.sp - UInt8.ofNat bytes.length + UInt8.ofNat i))) := by
  have top : (s.pushAll bytes).sp = s.sp - UInt8.ofNat bytes.length := by rw [pushAll_eq]
  rw [pullMany_eq, pulledCells_eq]
  simp only [Ram.readAll_eq, List.map_map, top]
  apply List.map_congr_left
  intro i _
  have distance : (s.sp - UInt8.ofNat bytes.length + UInt8.ofNat i -
      (s.sp - UInt8.ofNat bytes.length)).toNat = i % 256 := by
    rw [UInt8.add_comm, UInt8.add_sub_cancel]
    exact UInt8.toNat_ofNat'
  rw [Function.comp, get_pushAll, distance]

theorem getElem?_pulled (s : Sequencer Ram) (bytes : List Byte) {count i : Nat} (hi : i < count) :
    ((s.pushAll bytes).pullMany count).1[i]? =
      if i % 256 < bytes.length then bytes[bytes.length - 1 - i % 256]?
      else some
        (s.bus.get (stackCell (s.sp - UInt8.ofNat bytes.length + UInt8.ofNat i))) := by
  simp only [pulled_eq, List.getElem?_map, List.getElem?_range hi, Option.map_some,
    List.getD_eq_getElem?_getD]
  split
  case isTrue near =>
    have inside : bytes.length - 1 - i % 256 < bytes.length := by omega
    rw [List.getElem?_reverse near, List.getElem?_eq_getElem inside]
    rfl
  case isFalse far =>
    rw [List.getElem?_eq_none (by simpa using far)]
    rfl

/-- Bytes that fill the ring leave nothing of those under them, nor of the memory's own. -/
theorem pulled_of_full (s t : Sequencer Ram) (older : List Byte) {bytes : List Byte}
    (full : 256 ≤ bytes.length) (count : Nat) :
    ((t.pushAll (older ++ bytes)).pullMany count).1 = ((s.pushAll bytes).pullMany count).1 := by
  simp only [pulled_eq]
  apply List.map_congr_left
  intro i _
  have near : i % 256 < bytes.reverse.length := by
    rw [List.length_reverse]
    omega
  simp only [List.getD_eq_getElem?_getD, List.reverse_append, List.getElem?_append_left near,
    List.getElem?_eq_getElem near, Option.getD_some]

theorem ring_off (s : Sequencer Ram) (bytes : List Byte) (count : Nat) {a : Address}
    (off : ¬ a.OnStack) : ((s.pushAll bytes).pullMany count).2.bus.get a = s.bus.get a := by
  have bus : ((s.pushAll bytes).pullMany count).2.bus =
      Bus.writeAll s.bus (pushedWrites s.sp bytes) := by
    simp only [pullMany_eq, pushAll_eq, Ram.readAll_eq]
  rw [bus]
  apply s.bus.get_writeAll_other
  intro stored
  obtain ⟨w, hw, rfl⟩ := List.mem_map.mp stored
  exact off (pushedWrites_onStack s.sp bytes w hw)

/-- The address of a cell of the ring in whole numbers. -/
theorem toNat_ringCell (sp : Byte) (depth height : Nat) :
    ((stackCell (sp - UInt8.ofNat depth + UInt8.ofNat height)).toNat : Int) =
      0x0100 + (sp.toNat - depth + height) % 256 := by
  have low := toNat_lowered sp depth
  rw [toNat_stackCell, UInt8.toNat_add, UInt8.toNat_ofNat']
  omega

/-- Bytes are pushed, however many, and then so many pulled, from any stack pointer on. The pulls
give the bytes from the last one back and then, where none was pushed, what the cells held before;
after 256 pulls the same comes again. So nothing is left under 256 pushed bytes. The pointer wraps,
and on any bus nothing but the page of the stack is read or stored to. -/
theorem stack_ring (s : Sequencer Ram) (bytes : List Byte) (count : Nat) :
    let pulled := ((s.pushAll bytes).pullMany count).1
    let left := ((s.pushAll bytes).pullMany count).2
    pulled.length = count ∧
      (∀ i < count, ∃ a : Address,
        (a.toNat : Int) = 0x0100 + (s.sp.toNat - bytes.length + i) % 256 ∧
        pulled[i]? =
          if i % 256 < bytes.length then bytes[bytes.length - 1 - i % 256]?
          else some (s.bus.get a)) ∧
      (left.sp.toNat : Int) = (s.sp.toNat - bytes.length + count) % 256 ∧
      left.pc = s.pc ∧
      (∀ a : Address, ¬ a.OnStack → left.bus.get a = s.bus.get a) ∧
      (∀ (M : Type) [Bus M] (t : Sequencer M),
        ((t.pushAll bytes).pullMany count).2.bus =
          Bus.perform t.bus (ringAccesses t.sp bytes count) ∧
        ∀ access ∈ ringAccesses t.sp bytes count, access.address.OnStack) ∧
      (256 ≤ bytes.length → ∀ (t : Sequencer Ram) (older : List Byte),
        ((t.pushAll (older ++ bytes)).pullMany count).1 = pulled) := by
  intro pulled left
  refine ⟨?_, ?_, ?_, ?_, ?_, ?_, ?_⟩
  · simp only [pulled, pulled_eq, List.length_map, List.length_range]
  · intro i hi
    exact ⟨_, toNat_ringCell s.sp bytes.length i, s.getElem?_pulled bytes hi⟩
  · have raised : left.sp = s.sp - UInt8.ofNat bytes.length + UInt8.ofNat count := by
      simp only [left, pullMany_eq, pushAll_eq]
    have cell := toNat_ringCell s.sp bytes.length count
    rw [toNat_stackCell] at cell
    rw [raised]
    omega
  · simp only [left, pullMany_eq, pushAll_eq]
  · intro a off
    exact s.ring_off bytes count off
  · intro M _ t
    exact ⟨t.ring_bus bytes count, ringAccesses_onStack t.sp bytes count⟩
  · intro full t older
    exact s.pulled_of_full t older full count

end Sequencer

end Console6502
