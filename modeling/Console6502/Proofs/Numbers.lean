import Console6502.Core
import Console6502.Ram
import Mathlib.Data.Nat.Digits.Defs

namespace Console6502

namespace Ram

variable {ram other : Ram} {cells : List Address}

/-- The number that lies in these cells, from its low byte up, when each byte counts for so much. -/
def numberBy (worth : Byte → Nat) (ram : Ram) (cells : List Address) : Nat :=
  Nat.ofDigits 256 (cells.map fun a => worth (ram.get a))

def number (ram : Ram) (cells : List Address) : Nat := ram.numberBy UInt8.toNat cells

theorem numberBy_cons (worth : Byte → Nat) (ram : Ram) (a : Address) (cells : List Address) :
    ram.numberBy worth (a :: cells) = worth (ram.get a) + 256 * ram.numberBy worth cells :=
  Nat.ofDigits_cons

theorem number_cons (ram : Ram) (a : Address) (cells : List Address) :
    ram.number (a :: cells) = (ram.get a).toNat + 256 * ram.number cells :=
  ram.numberBy_cons UInt8.toNat a cells

theorem numberBy_set_other (worth : Byte → Nat) (ram : Ram) {a : Address} (b : Byte)
    (off : a ∉ cells) : (ram.set a b).numberBy worth cells = ram.numberBy worth cells := by
  refine congrArg (Nat.ofDigits 256) (List.map_congr_left ?_)
  intro c hc
  have other : a ≠ c := fun same => off (same ▸ hc)
  rw [ram.get_set_other b other]

theorem number_set_other (ram : Ram) {a : Address} (b : Byte) (off : a ∉ cells) :
    (ram.set a b).number cells = ram.number cells :=
  ram.numberBy_set_other UInt8.toNat b off

theorem digit_lt (ram : Ram) (cells : List Address) :
    ∀ n ∈ cells.map fun a => (ram.get a).toNat, n < 256 := by
  intro n hn
  obtain ⟨a, -, rfl⟩ := List.mem_map.mp hn
  exact (ram.get a).toNat_lt

theorem number_lt (ram : Ram) (cells : List Address) : ram.number cells < 256 ^ cells.length := by
  have bound := Nat.ofDigits_lt_base_pow_length (by decide) (ram.digit_lt cells)
  rwa [List.length_map] at bound

/-- A number has its bytes in one way only. -/
theorem get_of_number_eq (same : ram.number cells = other.number cells) :
    ∀ a ∈ cells, ram.get a = other.get a := by
  have digits := Nat.ofDigits_inj_of_len_eq (by decide) (by rw [List.length_map, List.length_map])
    (ram.digit_lt cells) (other.digit_lt cells) same
  intro a ha
  exact UInt8.toNat_inj.mp (List.map_inj_left.mp digits a ha)

/-- Memory is as it was but for these cells. -/
def SameOff (cells : List Address) (ram other : Ram) : Prop := ∀ a ∉ cells, other.get a = ram.get a

theorem SameOff.refl (ram : Ram) : SameOff [] ram ram := fun _ _ => rfl

/-- A change to one cell, before or behind changes to others. -/
theorem SameOff.set_first {a : Address} {b : Byte} (rest : SameOff cells (ram.set a b) other) :
    SameOff (a :: cells) ram other := by
  intro c hc
  obtain ⟨here, there⟩ := not_or.mp (mt List.mem_cons.mpr hc)
  rw [rest c there, ram.get_set_other b (Ne.symm here)]

theorem SameOff.set_last (first : SameOff cells ram other) (a : Address) (b : Byte) :
    SameOff (a :: cells) ram (other.set a b) := by
  intro c hc
  obtain ⟨here, there⟩ := not_or.mp (mt List.mem_cons.mpr hc)
  rw [other.get_set_other b (Ne.symm here), first c there]

end Ram

/-- An instruction with its operand. -/
structure Order where
  mnemonic : Mnemonic
  operand : Operand
deriving DecidableEq, Repr

namespace Core

variable {M : Type} [Bus M]

/-- Carries out orders one after another, up to the first behind which the next is not due. -/
def executeAll (c : Core M) : List Order → Flow × Core M
  | [] => (.next, c)
  | o :: orders =>
    match c.execute o.operand o.mnemonic with
    | (.next, c) => c.executeAll orders
    | stopped => stopped

theorem executeAll_cons {c d : Core M} {o : Order}
    (first : c.execute o.operand o.mnemonic = (.next, d)) (orders : List Order) :
    c.executeAll (o :: orders) = d.executeAll orders := by
  simp only [executeAll, first]

theorem executeAll_append {c d : Core M} {first : List Order}
    (done : c.executeAll first = (.next, d)) (last : List Order) :
    c.executeAll (first ++ last) = d.executeAll last := by
  induction first generalizing c with
  | nil =>
    cases done
    rfl
  | cons o first ih =>
    cases executed : c.execute o.operand o.mnemonic with
    | mk flow e =>
      simp only [executeAll, executed] at done
      cases flow with
      | next =>
        rw [List.cons_append, executeAll_cons executed]
        exact ih done
      | halt => cases done
      | missingAddress => cases done

end Core

end Console6502
