import Console6502.Proofs.Quoting
import Console6502.Proofs.Trimming
import Console6502.Runner.Value
import Mathlib.Tactic.Ring

namespace Console6502

namespace Text

/-- A character that stands for a digit of a radix. Letters may be of either case. -/
def Denotes (radix : Nat) (c : Char) (d : Nat) : Prop :=
  d < radix ∧ (smalls[d]? = some c ∨ capitals[d]? = some c)

/-- Digits, the most significant first, and the number that they write. -/
def Writes (radix : Nat) (digits : List Char) (n : Nat) : Prop :=
  ∃ ds, List.Forall₂ (Denotes radix) digits ds ∧ n = Nat.ofDigits radix ds.reverse

/-- A text cut behind its last leading digit, with the number that these digits write. -/
structure Opens (radix : Nat) (text digits rest : List Char) (n : Nat) : Prop where
  cut : text = digits ++ rest
  writes : Writes radix digits n
  stops : ∀ c ∈ rest.head?, ∀ d, ¬ Denotes radix c d

/-- What is left of a text behind a plus, if it begins with one. -/
def unsigned : List Char → List Char
  | '+' :: digits => digits
  | digits => digits

/-- A number as it may be written: digits, at least one of them, behind a plus or on their own. -/
def Numeral (radix : Nat) (text : List Char) (n : Nat) : Prop :=
  unsigned text ≠ [] ∧ Writes radix (unsigned text) n

theorem digit?_of_high {c : Char} (h : 123 ≤ c.toNat) : digit? 16 c = none := by
  have above (top : Char) (low : top.toNat < 123) : ¬ c ≤ top := by
    rw [Char.le_def, UInt32.le_iff_toNat_le]
    change ¬ c.toNat ≤ top.toNat
    omega
  simp [digit?, above]

theorem digit?_sixteen {c : Char} {d : Nat} : digit? 16 c = some d ↔ Denotes 16 c d := by
  have read : ∀ n < 123, ∀ d ∈ digit? 16 (Char.ofNat n),
      d < 16 ∧ (smalls[d]? = some (Char.ofNat n) ∨ capitals[d]? = some (Char.ofNat n)) := by
    decide
  have small : ∀ d < 16, smalls[d]?.bind (digit? 16) = some d := by decide
  have capital : ∀ d < 16, capitals[d]?.bind (digit? 16) = some d := by decide
  constructor
  · intro h
    have low : c.toNat < 123 := by
      by_contra high
      rw [digit?_of_high (not_lt.mp high)] at h
      cases h
    have denotes := read c.toNat low d (by rwa [Char.ofNat_toNat])
    rwa [Char.ofNat_toNat] at denotes
  · rintro ⟨bound, h | h⟩
    · have read := small d bound
      rwa [h] at read
    · have read := capital d bound
      rwa [h] at read

theorem digit?_eq_some_iff {radix : Nat} (small : radix ≤ 16) {c : Char} {d : Nat} :
    digit? radix c = some d ↔ Denotes radix c d := by
  have kept : digit? radix c = (digit? 16 c).filter (· < radix) := by
    simp only [digit?, Option.filter_filter]
    congr 1
    funext d
    simp
    omega
  rw [kept, Option.filter_eq_some_iff, digit?_sixteen]
  simp only [Denotes, decide_eq_true_eq]
  constructor
  · rintro ⟨⟨-, written⟩, below⟩
    exact ⟨below, written⟩
  · rintro ⟨below, written⟩
    exact ⟨⟨below.trans_le small, written⟩, below⟩

theorem digit?_eq_none {radix : Nat} (small : radix ≤ 16) {c : Char}
    (stop : ∀ d, ¬ Denotes radix c d) : digit? radix c = none := by
  cases h : digit? radix c with
  | none => rfl
  | some d => exact absurd ((digit?_eq_some_iff small).mp h) (stop d)

section

variable {radix limit n : Nat} {text digits rest : List Char}

theorem exists_opens (radix : Nat) (text : List Char) :
    ∃ digits rest n, Opens radix text digits rest n := by
  induction text with
  | nil => exact ⟨[], [], 0, rfl, ⟨[], .nil, rfl⟩, by simp⟩
  | cons c text ih =>
    by_cases h : ∃ d, Denotes radix c d
    · obtain ⟨d, denotes⟩ := h
      obtain ⟨digits, rest, n, rfl, ⟨ds, all, -⟩, stops⟩ := ih
      exact ⟨c :: digits, rest, _, rfl, ⟨d :: ds, .cons denotes all, rfl⟩, stops⟩
    · rw [not_exists] at h
      exact ⟨[], c :: text, 0, rfl, ⟨[], .nil, rfl⟩, by simpa using h⟩

theorem Opens.eq_zero (opens : Opens radix [] digits rest n) : n = 0 := by
  obtain ⟨cut, ⟨ds, all, rfl⟩, -⟩ := opens
  obtain ⟨rfl, -⟩ := List.append_eq_nil_iff.mp cut.symm
  cases all
  rfl

theorem Writes.opens (h : Writes radix text n) : Opens radix text text [] n :=
  ⟨text.append_nil.symm, h, by simp⟩

theorem ofDigits_reverse_cons_add (radix value d : Nat) (ds : List Nat) :
    value * radix ^ (d :: ds).length + Nat.ofDigits radix (d :: ds).reverse =
      (value * radix + d) * radix ^ ds.length + Nat.ofDigits radix ds.reverse := by
  rw [Nat.ofDigits_reverse_cons, List.length_cons]
  ring

theorem readUnsigned_eq (given : text ≠ []) :
    readUnsigned radix limit text =
      if unsigned text = [] then .error .invalidDigit
      else readDigits radix limit 0 (unsigned text) := by
  unfold readUnsigned unsigned
  split <;> simp_all

variable (positive : 0 < radix) (small : radix ≤ 16)
include positive small

/-- Digits behind a value move it up by a place each, so that a value over the limit stays over it. -/
theorem readDigits_append {ds : List Nat} (all : List.Forall₂ (Denotes radix) digits ds)
    (stops : ∀ c ∈ rest.head?, ∀ d, ¬ Denotes radix c d) {value : Nat} (fits : value ≤ limit) :
    readDigits radix limit value (digits ++ rest) =
      let n := value * radix ^ ds.length + Nat.ofDigits radix ds.reverse
      if limit < n then .error .tooLarge else if rest = [] then .ok n else .error .invalidDigit := by
  induction all generalizing value with
  | nil =>
    have kept : ¬ limit < value := not_lt.mpr fits
    cases rest with
    | nil => simp [readDigits, kept]
    | cons c rest => simp [readDigits, digit?_eq_none small (stops c rfl), kept]
  | @cons c d digits ds denotes all ih =>
    rw [List.cons_append, readDigits, (digit?_eq_some_iff small).mpr denotes,
      ofDigits_reverse_cons_add]
    dsimp only
    split
    case isTrue exceeds =>
      have grows : value * radix + d ≤ (value * radix + d) * radix ^ ds.length :=
        Nat.le_mul_of_pos_right _ (Nat.pow_pos positive)
      rw [if_pos (exceeds.trans_le (grows.trans (Nat.le_add_right _ _)))]
    case isFalse within => exact ih (not_lt.mp within)

theorem readUnsigned_of_opens (opens : Opens radix (unsigned text) digits rest n) :
    readUnsigned radix limit text =
      if text = [] then .error .empty
      else if limit < n then .error .tooLarge
      else if digits ≠ [] ∧ rest = [] then .ok n
      else .error .invalidDigit := by
  obtain ⟨cut, ⟨ds, all, rfl⟩, stops⟩ := opens
  split
  case isTrue none =>
    subst none
    rfl
  case isFalse given =>
    rw [readUnsigned_eq given, cut, readDigits_append positive small all stops limit.zero_le]
    simp only [Nat.zero_mul, Nat.zero_add]
    cases all with
    | nil => cases rest <;> simp
    | cons => simp

theorem readUnsigned_empty_iff : readUnsigned radix limit text = .error .empty ↔ text = [] := by
  obtain ⟨digits, rest, n, opens⟩ := exists_opens radix (unsigned text)
  rw [readUnsigned_of_opens positive small opens]
  split_ifs <;> simp_all

/-- A text is given a number just if it is a numeral for it and the number is within the limit. -/
theorem readUnsigned_ok_iff :
    readUnsigned radix limit text = .ok n ↔ Numeral radix text n ∧ n ≤ limit := by
  constructor
  · intro read
    obtain ⟨digits, rest, value, opens⟩ := exists_opens radix (unsigned text)
    rw [readUnsigned_of_opens positive small opens] at read
    split_ifs at read with none exceeds whole
    cases read
    obtain ⟨some, rfl⟩ := whole
    have all : unsigned text = digits := opens.cut.trans digits.append_nil
    exact ⟨⟨all ▸ some, all ▸ opens.writes⟩, not_lt.mp exceeds⟩
  · rintro ⟨⟨some, writes⟩, within⟩
    have given : text ≠ [] := by
      rintro rfl
      exact some rfl
    rw [readUnsigned_of_opens positive small writes.opens, if_neg given,
      if_neg (not_lt.mpr within), if_pos ⟨some, rfl⟩]

/-- What goes over the limit is the number of the leading digits, whatever stands behind them. -/
theorem readUnsigned_tooLarge_iff :
    readUnsigned radix limit text = .error .tooLarge ↔
      ∃ digits rest n, Opens radix (unsigned text) digits rest n ∧ limit < n := by
  constructor
  · intro read
    obtain ⟨digits, rest, value, opens⟩ := exists_opens radix (unsigned text)
    rw [readUnsigned_of_opens positive small opens] at read
    split_ifs at read with none exceeds
    · cases read
    · exact ⟨digits, rest, value, opens, exceeds⟩
    · cases read
  · rintro ⟨digits, rest, n, opens, exceeds⟩
    have given : text ≠ [] := by
      rintro rfl
      rw [opens.eq_zero] at exceeds
      exact Nat.not_lt_zero limit exceeds
    rw [readUnsigned_of_opens positive small opens, if_neg given, if_pos exceeds]

/-- A digit is to blame when nothing else is. -/
theorem readUnsigned_invalidDigit_iff :
    readUnsigned radix limit text = .error .invalidDigit ↔
      text ≠ [] ∧ (∀ n, ¬ Numeral radix text n) ∧
        ∀ digits rest n, Opens radix (unsigned text) digits rest n → n ≤ limit := by
  constructor
  · intro read
    have none_over : ∀ digits rest n, Opens radix (unsigned text) digits rest n → n ≤ limit := by
      intro digits rest n opens
      by_contra exceeds
      have large := (readUnsigned_tooLarge_iff positive small).mpr
        ⟨digits, rest, n, opens, not_le.mp exceeds⟩
      cases read.symm.trans large
    refine ⟨?_, ?_, none_over⟩
    · rintro rfl
      cases read
    · intro n numeral
      have within := none_over _ _ n numeral.2.opens
      cases read.symm.trans ((readUnsigned_ok_iff positive small).mpr ⟨numeral, within⟩)
  · rintro ⟨given, none, none_over⟩
    cases read : readUnsigned radix limit text with
    | ok n => exact absurd ((readUnsigned_ok_iff positive small).mp read).1 (none n)
    | error reason =>
      cases reason with
      | empty => exact absurd ((readUnsigned_empty_iff positive small).mp read) given
      | invalidDigit => rfl
      | tooLarge =>
        obtain ⟨digits, rest, n, opens, exceeds⟩ := (readUnsigned_tooLarge_iff positive small).mp read
        exact absurd exceeds (not_lt.mpr (none_over digits rest n opens))

end

end Text

namespace Runner

open Text

/-- The radix of a number and what stands behind the mark for it. -/
inductive Marked : List Char → Nat → List Char → Prop
  | zeroX (digits : List Char) : Marked ('0' :: 'x' :: digits) 16 digits
  | dollar (digits : List Char) : Marked ('$' :: digits) 16 digits
  | bare {text : List Char} (noZeroX : ¬ ['0', 'x'] <+: text) (noDollar : ¬ ['$'] <+: text) :
      Marked text 10 text

/-- How a text is refused as a number: between quotes, with the reason behind it. -/
def Refused (text : List Char) (reason message : String) : Prop :=
  ∃ quotation, Quotes text quotation ∧ message = s!"invalid number {quotation}: {reason}"

/-- What is answered to a text in which, apart from the blanks at its ends, `digits` stand behind the
mark for `base`. A number of 32 bits that goes over the limit is told in fewer words than others. -/
inductive Answer (limit : Nat) (text : List Char) (base : Nat) (digits : List Char) :
    Except String Nat → Prop
  | within {n : Nat} (numeral : Numeral base digits n) (fits : n ≤ limit) :
      Answer limit text base digits (.ok n)
  | beyond {n : Nat} (numeral : Numeral base digits n) (exceeds : limit < n) (word : n < 2 ^ 32) :
      Answer limit text base digits (.error "number too large to fit in target type")
  | empty {message : String} (nothing : digits = [])
      (told : Refused text "cannot parse integer from empty string" message) :
      Answer limit text base digits (.error message)
  | tooLarge {run rest : List Char} {n : Nat} {message : String}
      (opens : Opens base (unsigned digits) run rest n) (exceeds : 2 ^ 32 ≤ n)
      (told : Refused text "number too large to fit in target type" message) :
      Answer limit text base digits (.error message)
  | invalidDigit {message : String} (something : digits ≠ [])
      (noNumeral : ∀ n, ¬ Numeral base digits n)
      (small : ∀ run rest n, Opens base (unsigned digits) run rest n → n < 2 ^ 32)
      (told : Refused text "invalid digit found in string" message) :
      Answer limit text base digits (.error message)

theorem marked_radix (text : List Char) : Marked text (radix text).1 (radix text).2 := by
  unfold radix
  split
  · exact .zeroX _
  · exact .dollar _
  · refine .bare ?_ ?_
    · rintro ⟨rest, rfl⟩
      simp_all
    · rintro ⟨rest, rfl⟩
      simp_all

theorem Marked.base_le {text digits : List Char} {base : Nat} (h : Marked text base digits) :
    0 < base ∧ base ≤ 16 := by
  cases h <;> decide

section

variable {limit base n : Nat} {text digits : List Char}

theorem refused_iff {reason message : String} :
    Refused text reason message ↔ message = s!"invalid number {quoted text}: {reason}" := by
  simp only [Refused, quotes_iff, exists_eq_left]

/-- Apart from the words it is told in, the result of reading a number is the one that `Answer` has. -/
theorem told_readCell (marked : radix (trim text) = (base, digits)) (bounds : 0 < base ∧ base ≤ 16)
    (word : limit < 2 ^ 32) (answer : Except String Nat) :
    (readCell limit text).mapError ValueError.message = answer ↔
      Answer limit (trim text) base digits answer := by
  obtain ⟨positive, small⟩ := bounds
  have whole (n : Nat) : n ≤ 0xFFFFFFFF ↔ n < 2 ^ 32 := Nat.lt_succ_iff.symm
  simp only [readCell, marked]
  constructor
  · rintro rfl
    cases read : readUnsigned base 0xFFFFFFFF digits with
    | ok n =>
      obtain ⟨numeral, fits⟩ := (readUnsigned_ok_iff positive small).mp read
      dsimp only
      split
      case isTrue exceeds => exact .beyond numeral exceeds ((whole n).mp fits)
      case isFalse within => exact .within numeral (not_lt.mp within)
    | error reason =>
      cases reason with
      | empty => exact .empty ((readUnsigned_empty_iff positive small).mp read) (refused_iff.mpr rfl)
      | invalidDigit =>
        obtain ⟨something, none, fits⟩ := (readUnsigned_invalidDigit_iff positive small).mp read
        refine .invalidDigit something none ?_ (refused_iff.mpr rfl)
        intro run rest n opens
        exact (whole n).mp (fits run rest n opens)
      | tooLarge =>
        obtain ⟨run, rest, n, opens, exceeds⟩ := (readUnsigned_tooLarge_iff positive small).mp read
        exact .tooLarge opens exceeds (refused_iff.mpr rfl)
  · intro told
    cases told with
    | within numeral fits =>
      have read := (readUnsigned_ok_iff positive small).mpr
        ⟨numeral, (whole _).mpr (fits.trans_lt word)⟩
      rw [read]
      exact congrArg (Except.mapError ValueError.message) (if_neg (not_lt.mpr fits))
    | beyond numeral exceeds word =>
      have read := (readUnsigned_ok_iff positive small).mpr ⟨numeral, (whole _).mpr word⟩
      rw [read]
      exact congrArg (Except.mapError ValueError.message) (if_pos exceeds)
    | empty nothing told =>
      have read : readUnsigned base 0xFFFFFFFF digits = .error .empty :=
        (readUnsigned_empty_iff positive small).mpr nothing
      rw [read, refused_iff.mp told]
      rfl
    | tooLarge opens exceeds told =>
      have read := (readUnsigned_tooLarge_iff positive small).mpr ⟨_, _, _, opens, exceeds⟩
      rw [read, refused_iff.mp told]
      rfl
    | invalidDigit something noNumeral fits told =>
      have read := (readUnsigned_invalidDigit_iff positive small).mpr
        ⟨something, noNumeral, fun run rest n opens => (whole n).mpr (fits run rest n opens)⟩
      rw [read, refused_iff.mp told]
      rfl

theorem readCell_le (h : readCell limit text = .ok n) : n ≤ limit := by
  simp only [readCell] at h
  split at h
  · cases h
  · split at h
    · cases h
    · cases h
      omega

theorem toNat_readAddress (text : List Char) :
    (readAddress text).map UInt16.toNat = readCell 0xFFFF text := by
  rw [readAddress]
  cases h : readCell 0xFFFF text with
  | error e => rfl
  | ok n => exact congrArg Except.ok (UInt16.toNat_ofNat_of_lt' (Nat.lt_succ_of_le (readCell_le h)))

theorem toNat_readByte (text : List Char) :
    (readByte text).map UInt8.toNat = readCell 0xFF text := by
  rw [readByte]
  cases h : readCell 0xFF text with
  | error e => rfl
  | ok n => exact congrArg Except.ok (UInt8.toNat_ofNat_of_lt' (Nat.lt_succ_of_le (readCell_le h)))

end

/-- The answer to every text where an address or a byte is wanted. Blanks at its ends are trimmed, one
mark makes the radix sixteen, and one plus may stand before the digits. -/
theorem answers_exact (text : List Char) :
    ∃ t base digits, Trimmed text t ∧ Marked t base digits ∧
      (∀ answer, ((readAddress text).map UInt16.toNat).mapError ValueError.message = answer ↔
        Answer 65535 t base digits answer) ∧
      ∀ answer, ((readByte text).map UInt8.toNat).mapError ValueError.message = answer ↔
        Answer 255 t base digits answer := by
  have marked := marked_radix (trim text)
  refine ⟨trim text, _, _, trimmed_trim text, marked, ?_, ?_⟩
  · rw [toNat_readAddress]
    exact told_readCell rfl marked.base_le (by decide)
  · rw [toNat_readByte]
    exact told_readCell rfl marked.base_le (by decide)

/-- A plus may stand behind the mark, but not a second mark. -/
example : readAddress "0x+10".toList = .ok 0x10 ∧
    readAddress "$0x1".toList = .error (.malformed "$0x1".toList .invalidDigit) := by
  decide

end Runner

end Console6502
