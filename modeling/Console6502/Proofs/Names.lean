import Console6502.InstructionSet
import Console6502.Proofs.Trimming
import Mathlib.Data.List.Forall2

namespace Console6502

namespace Text

/-- The letters of ASCII, each capital with its small form. -/
def letters : List (Char × Char) :=
  "ABCDEFGHIJKLMNOPQRSTUVWXYZ".toList.zip "abcdefghijklmnopqrstuvwxyz".toList

/-- The same character, or the two cases of one letter of ASCII. -/
def SameLetter (c d : Char) : Prop := c = d ∨ (c, d) ∈ letters ∨ (d, c) ∈ letters

/-- The same text up to the case of the letters of ASCII. -/
def SameText : List Char → List Char → Prop := List.Forall₂ SameLetter

theorem toUpper_cases (c : Char) : c.toUpper = c ∨ (c.toUpper, c) ∈ letters := by
  have small : ∀ n ∈ List.range' 97 26, ((Char.ofNat n).toUpper, Char.ofNat n) ∈ letters := by
    decide
  by_cases h : 97 ≤ c.toNat ∧ c.toNat ≤ 122
  · have listed := small c.toNat (by simp; omega)
    rw [Char.ofNat_toNat] at listed
    exact .inr listed
  · exact .inl (dif_neg h)

theorem sameLetter_iff {c d : Char} : SameLetter c d ↔ c.toUpper = d.toUpper := by
  have upper : ∀ p ∈ letters, p.1.toUpper = p.2.toUpper := by decide
  have small : ∀ p ∈ letters, p.1.toLower = p.2 := by decide
  constructor
  · rintro (rfl | h | h)
    · rfl
    · exact upper _ h
    · exact (upper _ h).symm
  · intro h
    rcases toUpper_cases c with hc | hc <;> rcases toUpper_cases d with hd | hd
    · exact .inl (hc.symm.trans (h.trans hd))
    · exact .inr (.inl (by rwa [← h, hc] at hd))
    · exact .inr (.inr (by rwa [h, hd] at hc))
    · have down := (small _ hc).symm.trans (congrArg Char.toLower h)
      exact .inl (down.trans (small _ hd))

theorem sameText_iff {s t : List Char} :
    SameText s t ↔ s.map Char.toUpper = t.map Char.toUpper := by
  have letter : SameLetter = fun c d => c.toUpper = d.toUpper :=
    funext₂ fun _ _ => propext sameLetter_iff
  rw [← List.forall₂_eq_eq_eq, List.forall₂_map_left_iff, List.forall₂_map_right_iff, SameText, letter]

theorem isBlank_toUpper (c : Char) : isBlank c.toUpper = isBlank c := by
  have solid : ∀ p ∈ letters, isBlank p.1 = isBlank p.2 := by decide
  rcases toUpper_cases c with same | letter
  · rw [same]
  · exact solid _ letter

/-- A change of case does not move the ends of a text. -/
theorem SameText.trim {s t : List Char} (h : SameText s t) : SameText (trim s) (trim t) := by
  rw [sameText_iff] at h ⊢
  rw [← trim_map isBlank_toUpper, ← trim_map isBlank_toUpper, h]

end Text

namespace Mnemonic

open Text

/-- A text names a mnemonic if it is its name, up to the case of letters and the blanks around it. -/
def NamedBy (m : Mnemonic) (text : List Char) : Prop :=
  ∃ t, Trimmed text t ∧ SameText t m.name.toList

theorem toUpper_name (m : Mnemonic) : m.name.toList.map Char.toUpper = m.name.toList := by
  cases m <;> rfl

theorem ofText?_name (m : Mnemonic) : ofText? m.name.toList = some m := by
  cases m <;> rfl

theorem name_injective {m other : Mnemonic} (h : m.name = other.name) : m = other := by
  have read := ofText?_name m
  rw [h, ofText?_name] at read
  exact (Option.some.inj read).symm

theorem sameText_name {m : Mnemonic} {t : List Char} :
    SameText t m.name.toList ↔ m.name.toList = t.map Char.toUpper := by
  rw [sameText_iff, toUpper_name, eq_comm]

theorem namedBy_iff {m : Mnemonic} {text : List Char} :
    m.NamedBy text ↔ m.name.toList = (trim text).map Char.toUpper := by
  constructor
  · rintro ⟨t, trimmed, same⟩
    rw [← trimmed.eq_trim]
    exact sameText_name.mp same
  · intro h
    exact ⟨trim text, trimmed_trim text, sameText_name.mpr h⟩

/-- No two names differ in case alone, so a text names one mnemonic at most. -/
theorem NamedBy.unique {m other : Mnemonic} {text : List Char} (h : m.NamedBy text)
    (h' : other.NamedBy text) : m = other := by
  rw [namedBy_iff] at h h'
  exact name_injective (String.toList_inj.mp (h.trans h'.symm))

theorem namedBy_of_ofText? {m : Mnemonic} {text : List Char} (h : ofText? text = some m) :
    m.NamedBy text := by
  rw [ofText?] at h
  have matched := List.find?_some h
  exact namedBy_iff.mpr (eq_of_beq matched)

/-- The search finds the mnemonic that a text names, wherever it stands. -/
theorem ofText?_eq_some_iff {m : Mnemonic} {text : List Char} :
    ofText? text = some m ↔ m.NamedBy text := by
  refine ⟨namedBy_of_ofText?, fun named => ?_⟩
  cases search : ofText? text with
  | none =>
    have missed := List.find?_eq_none.mp search m (mem_all m)
    exact absurd (beq_iff_eq.mpr (namedBy_iff.mp named)) missed
  | some found => rw [(namedBy_of_ofText? search).unique named]

theorem parse_ok_iff {m : Mnemonic} {text : List Char} :
    parse text = .ok m ↔ m.NamedBy text := by
  rw [← ofText?_eq_some_iff, parse]
  cases ofText? text <;> simp

theorem parse_error_iff {error : DefinitionError} {text : List Char} :
    parse text = .error error ↔ error = .unknownMnemonic text ∧ ∀ m : Mnemonic, ¬ m.NamedBy text := by
  simp only [← ofText?_eq_some_iff, parse]
  cases ofText? text <;> simp [eq_comm]

theorem NamedBy.pad {m : Mnemonic} {front text other back : List Char}
    (front_blank : ∀ c ∈ front, isBlank c) (back_blank : ∀ c ∈ back, isBlank c)
    (same : SameText other text) : m.NamedBy (front ++ other ++ back) ↔ m.NamedBy text := by
  rw [namedBy_iff, namedBy_iff, trim_pad front_blank back_blank, sameText_iff.mp same.trim]

/-- Reading succeeds exactly for a text that names a mnemonic, which is the only one that it names. Any
other text is refused and told as it came. Neither blanks added at the ends nor the case of letters
make a difference, so that each name is read in every mixture of cases. -/
theorem parse_exact (text : List Char) :
    (∀ m, parse text = .ok m ↔ m.NamedBy text) ∧
      (∀ m other : Mnemonic, m.NamedBy text → other.NamedBy text → m = other) ∧
      (∀ error, parse text = .error error ↔
        error = .unknownMnemonic text ∧ ∀ m : Mnemonic, ¬ m.NamedBy text) ∧
      ∀ front back other, (∀ c ∈ front, isBlank c) → (∀ c ∈ back, isBlank c) →
        (∀ m : Mnemonic, SameText other m.name.toList → parse (front ++ other ++ back) = .ok m) ∧
        (SameText other text → ∀ m,
          parse (front ++ other ++ back) = .ok m ↔ parse text = .ok m) := by
  refine ⟨fun m => parse_ok_iff, fun m other h h' => h.unique h', fun error => parse_error_iff, ?_⟩
  intro front back other front_blank back_blank
  constructor
  · intro m same
    have bare : m.NamedBy m.name.toList := ofText?_eq_some_iff.mp m.ofText?_name
    exact parse_ok_iff.mpr ((NamedBy.pad front_blank back_blank same).mpr bare)
  · intro same m
    rw [parse_ok_iff, parse_ok_iff, NamedBy.pad front_blank back_blank same]

/-- The long s has S for its capital, but not in ASCII. -/
example : parse "ſta".toList = .error (.unknownMnemonic "ſta".toList) := by
  decide

end Mnemonic

end Console6502
