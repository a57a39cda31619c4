import Console6502.Text.Hex
import Mathlib.Data.Nat.Digits.Lemmas

namespace Console6502.Text

/-- The digits of base sixteen, with capital letters above nine. -/
def capitals : List Char := "0123456789ABCDEF".toList

/-- The digits of base sixteen, with small letters above nine. -/
def smalls : List Char := "0123456789abcdef".toList

/-- A number in the digits of an alphabet, the most significant first. -/
def Spells (alphabet text : List Char) (n : Nat) : Prop :=
  ∃ ds : List Nat, text.map some = ds.map (alphabet[·]?) ∧
    n = Nat.ofDigits alphabet.length ds.reverse

namespace Spells

variable {alphabet first last text : List Char} {n : Nat}

theorem concat (h : Spells alphabet text n) {c : Char} {d : Nat} (found : alphabet[d]? = some c) :
    Spells alphabet (text ++ [c]) (alphabet.length * n + d) := by
  obtain ⟨ds, chars, rfl⟩ := h
  refine ⟨ds ++ [d], ?_, ?_⟩
  · rw [List.map_append, List.map_append, chars, List.map_singleton, List.map_singleton, found]
  · rw [List.reverse_append, List.reverse_singleton, List.singleton_append, Nat.ofDigits_cons]
    exact Nat.add_comm _ d

theorem digit_lt {ds : List Nat} (chars : text.map some = ds.map (alphabet[·]?)) :
    ∀ d ∈ ds, d < alphabet.length := by
  intro d hd
  have found : alphabet[d]? ∈ text.map some := chars ▸ List.mem_map_of_mem hd
  obtain ⟨c, -, found⟩ := List.mem_map.mp found
  exact (List.getElem?_eq_some_iff.mp found.symm).1

theorem eq_of_digits {ds : List Nat} (chars : first.map some = ds.map (alphabet[·]?))
    (chars' : last.map some = ds.map (alphabet[·]?)) : first = last :=
  List.map_injective_iff.mpr (Option.some_injective _) (chars.trans chars'.symm)

/-- Texts of one length that spell the same number are the same. -/
theorem eq_of_length (several : 1 < alphabet.length) (h : Spells alphabet first n)
    (h' : Spells alphabet last n) (same : first.length = last.length) : first = last := by
  obtain ⟨ds, chars, rfl⟩ := h
  obtain ⟨es, chars', value⟩ := h'
  have lengths : ds.reverse.length = es.reverse.length := by
    have left := congrArg List.length chars
    have right := congrArg List.length chars'
    simp only [List.length_map, List.length_reverse] at left right ⊢
    omega
  have digits : ds.reverse = es.reverse :=
    Nat.ofDigits_inj_of_len_eq several lengths (fun d hd => digit_lt chars d (by simpa using hd))
      (fun d hd => digit_lt chars' d (by simpa using hd)) value
  exact eq_of_digits chars (List.reverse_injective digits ▸ chars')

/-- Digits without a leading zero are those of the number that they write. -/
theorem digits_eq (several : 1 < alphabet.length) {ds : List Nat}
    (chars : text.map some = ds.map (alphabet[·]?)) (leading : text.head? ≠ alphabet[0]?) :
    Nat.digits alphabet.length (Nat.ofDigits alphabet.length ds.reverse) = ds.reverse := by
  refine Nat.digits_ofDigits _ several _ (fun d hd => digit_lt chars d (by simpa using hd)) ?_
  intro some zero
  rw [List.getLast_reverse] at zero
  cases ds with
  | nil => simp at some
  | cons d ds =>
    cases zero
    cases text with
    | nil => cases chars
    | cons c text => exact leading (List.cons.inj chars).1

/-- Texts without leading zeros that spell the same number are the same. -/
theorem eq_of_leading (several : 1 < alphabet.length) (h : Spells alphabet first n)
    (h' : Spells alphabet last n) (leading : first.head? ≠ alphabet[0]?)
    (leading' : last.head? ≠ alphabet[0]?) : first = last := by
  obtain ⟨ds, chars, rfl⟩ := h
  obtain ⟨es, chars', value⟩ := h'
  have digits : ds.reverse = es.reverse := by
    rw [← digits_eq several chars leading, value, digits_eq several chars' leading']
  exact eq_of_digits chars (List.reverse_injective digits ▸ chars')

end Spells

theorem spells_hexFixed {width n : Nat} (fits : n < 16 ^ width) :
    Spells capitals (hexFixed width n) n := by
  induction width generalizing n with
  | zero =>
    have zero : n = 0 := Nat.lt_one_iff.mp fits
    exact ⟨[], rfl, zero⟩
  | succ width ih =>
    have digit : ∀ d < 16, capitals[d]? = some (hexDigit d) := by decide
    have rest : n / 16 < 16 ^ width := Nat.div_lt_of_lt_mul (by rwa [Nat.mul_comm])
    have spelled := (ih rest).concat (digit (n % 16) (Nat.mod_lt n (by decide)))
    have whole : capitals.length * (n / 16) + n % 16 = n := Nat.div_add_mod n 16
    rwa [whole] at spelled

theorem spells_toDigits (n : Nat) : Spells smalls (Nat.toDigits 16 n) n := by
  have digit : ∀ d < 16, smalls[d]? = some (Nat.digitChar d) := by decide
  induction n using Nat.strongRecOn with
  | ind n ih =>
    rw [Nat.toDigits_eq_if (by decide)]
    split
    case isTrue single =>
      have none : Spells smalls [] 0 := ⟨[], rfl, rfl⟩
      have spelled := none.concat (digit n single)
      rwa [Nat.mul_zero, Nat.zero_add] at spelled
    case isFalse several =>
      have smaller : n / 16 < n := by omega
      have spelled := (ih _ smaller).concat (digit (n % 16) (Nat.mod_lt n (by decide)))
      have whole : smalls.length * (n / 16) + n % 16 = n := Nat.div_add_mod n 16
      rwa [whole] at spelled

theorem head?_toDigits {n : Nat} (positive : 0 < n) : (Nat.toDigits 16 n).head? ≠ some '0' := by
  induction n using Nat.strongRecOn with
  | ind n ih =>
    rw [Nat.toDigits_eq_if (by decide)]
    split
    case isTrue single =>
      have digit : ∀ d < 16, 0 < d → Nat.digitChar d ≠ '0' := by decide
      simpa using digit n single positive
    case isFalse several =>
      have rest := ih (n / 16) (by omega) (by omega)
      rw [List.head?_append]
      cases h : (Nat.toDigits 16 (n / 16)).head? with
      | none => exact absurd (List.head?_eq_none_iff.mp h) Nat.toDigits_ne_nil
      | some c => rwa [h] at rest

/-- A number in so many capital digits of base sixteen. -/
structure Hexadecimal (width n : Nat) (text : String) : Prop where
  length : text.toList.length = width
  spells : Spells capitals text.toList n

theorem hexadecimal_iff {width n : Nat} (fits : n < 16 ^ width) {text : String} :
    Hexadecimal width n text ↔ text = String.ofList (hexFixed width n) := by
  constructor
  · rintro ⟨length, spells⟩
    rw [← hexFixed_length width n] at length
    rw [← spells.eq_of_length (by decide) (spells_hexFixed fits) length, String.ofList_toList]
  · rintro rfl
    refine ⟨?_, ?_⟩
    · rw [String.toList_ofList, hexFixed_length]
    · rw [String.toList_ofList]
      exact spells_hexFixed fits

theorem hexadecimal_byte {b : Byte} {text : String} :
    Hexadecimal 2 b.toNat text ↔ text = hexByte b :=
  hexadecimal_iff b.toNat_lt

theorem hexadecimal_address {a : Address} {text : String} :
    Hexadecimal 4 a.toNat text ↔ text = hexAddress a :=
  hexadecimal_iff a.toNat_lt

end Console6502.Text
