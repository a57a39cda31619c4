import Console6502.Proofs.Digits
import Console6502.Text.Quoted
import Mathlib.Data.List.Forall2

namespace Console6502.Text

open Unprintable (formatting combining ignorable unassigned covers)

/-- The code points that quotes do not show as they are. Those that every version of Unicode has
among them are written out; the tables list the others. -/
inductive Hidden (code : Nat) : Prop
  | control (h : code < 0x20 ∨ 0x7F ≤ code ∧ code < 0xA0)
  | diacritic (h : 0x300 ≤ code ∧ code ≤ 0x36F)
  | filler (h : code ∈ [0x115F, 0x1160, 0x3164, 0xFFA0])
  | privateUse (h : 0xE000 ≤ code ∧ code ≤ 0xF8FF ∨ 0xF0000 ≤ code ∧ code ≤ 0xFFFFD ∨
      0x100000 ≤ code ∧ code ≤ 0x10FFFD)
  | noncharacter (h : 0xFDD0 ≤ code ∧ code ≤ 0xFDEF ∨ 0xFFFE ≤ code % 0x10000)
  | listed {first last : Nat} (h : (first, last) ∈ formatting ++ combining ++ unassigned)
      (inside : first ≤ code ∧ code ≤ last)

/-- How a character stands between quotes. An apostrophe stands for itself. -/
inductive Shown : Char → List Char → Prop
  | quote : Shown '"' ['\\', '"']
  | backslash : Shown '\\' ['\\', '\\']
  | null : Shown '\x00' ['\\', '0']
  | tab : Shown '\t' ['\\', 't']
  | carriageReturn : Shown '\r' ['\\', 'r']
  | newline : Shown '\n' ['\\', 'n']
  | code {c : Char} {digits : List Char} (hidden : Hidden c.toNat)
      (unnamed : c ∉ ['\x00', '\t', '\r', '\n']) (spells : Spells smalls digits c.toNat)
      (leading : digits.head? ≠ some '0') : Shown c (['\\', 'u', '{'] ++ digits ++ ['}'])
  | itself {c : Char} (plain : ¬ Hidden c.toNat) (unnamed : c ∉ ['"', '\\']) : Shown c [c]

/-- A text between quotes, character by character. -/
def Quotes (text : List Char) (message : String) : Prop :=
  ∃ shown, List.Forall₂ Shown text shown ∧
    message = String.ofList ('"' :: shown.flatten ++ ['"'])

theorem covers_iff {table : List Unprintable.Range} {code : Nat} :
    covers table code = true ↔ ∃ r ∈ table, r.1 ≤ code ∧ code ≤ r.2 := by
  simp [covers]

theorem covers_of_sublist {ranges table : List Unprintable.Range} {code : Nat}
    (found : ranges.Sublist table) (inside : ∃ r ∈ ranges, r.1 ≤ code ∧ code ≤ r.2) :
    covers table code = true := by
  obtain ⟨r, hr, inside⟩ := inside
  exact covers_iff.mpr ⟨r, found.mem hr, inside⟩

theorem covers_ignorable {code : Nat} :
    covers ignorable code = true ↔ code ∈ [0x115F, 0x1160, 0x3164, 0xFFA0] := by
  simp [covers, ignorable]
  omega

theorem Hidden.of_covers {table : List Unprintable.Range} {code : Nat}
    (part : table ⊆ formatting ++ combining ++ unassigned) (h : covers table code = true) :
    Hidden code := by
  obtain ⟨r, mem, inside⟩ := covers_iff.mp h
  exact .listed (part mem) inside

theorem hidden_iff {code : Nat} (valid : code < 0x110000) :
    Hidden code ↔ covers formatting code ∨ covers combining code ∨ covers ignorable code ∨
      covers unassigned code := by
  have controls : [(0x0, 0x1F), (0x7F, 0xA0)].Sublist formatting := by decide
  have areas : [(0xE000, 0xF8FF), (0xF0000, 0xFFFFD), (0x100000, 0x10FFFD)].Sublist formatting := by
    decide
  have ends : [(0xFDD0, 0xFDEF), (0xFFFE, 0xFFFF), (0x1FBFB, 0x1FFFF), (0x2FA1E, 0x2FFFF),
      (0x3347A, 0xE0000), (0xE01F0, 0xEFFFF), (0xFFFFE, 0xFFFFF), (0x10FFFE, 0x10FFFF)].Sublist
        unassigned := by
    decide +kernel
  constructor
  · intro hidden
    cases hidden with
    | control h => exact .inl (covers_of_sublist controls (by simp; omega))
    | diacritic h =>
      have marks : [(0x300, 0x36F)].Sublist combining := by decide
      exact .inr (.inl (covers_of_sublist marks (by simp; omega)))
    | filler h => exact .inr (.inr (.inl (covers_ignorable.mpr h)))
    | privateUse h => exact .inl (covers_of_sublist areas (by simp; omega))
    | noncharacter h =>
      exact .inr (.inr (.inr (covers_of_sublist ends (by simp; omega))))
    | listed h inside =>
      rw [List.mem_append, List.mem_append] at h
      rcases h with (h | h) | h
      · exact .inl (covers_iff.mpr ⟨_, h, inside⟩)
      · exact .inr (.inl (covers_iff.mpr ⟨_, h, inside⟩))
      · exact .inr (.inr (.inr (covers_iff.mpr ⟨_, h, inside⟩)))
  · rintro (h | h | h | h)
    · exact .of_covers (by simp) h
    · exact .of_covers (by simp) h
    · exact .filler (covers_ignorable.mp h)
    · exact .of_covers (by simp) h

/-- No table lists a character that can be typed. -/
theorem not_typed {code : Nat} (h : covers formatting code ∨ covers combining code ∨
    covers ignorable code ∨ covers unassigned code) : ¬ (0x20 ≤ code ∧ code ≤ 0x7E) := by
  have outside : ∀ table ∈ [formatting, combining, ignorable, unassigned], ∀ r ∈ table,
      r.2 < 0x20 ∨ 0x7E < r.1 := by
    decide +kernel
  have bare : ∀ table ∈ [formatting, combining, ignorable, unassigned],
      covers table code = true → ¬ (0x20 ≤ code ∧ code ≤ 0x7E) := by
    intro table mem covered
    obtain ⟨r, hr, inside⟩ := covers_iff.mp covered
    have apart := outside table mem r hr
    omega
  rcases h with h | h | h | h <;> exact bare _ (by simp) h

theorem isUnprintable_iff {c : Char} : isUnprintable c = true ↔ Hidden c.toNat := by
  have typed : (' ' ≤ c && c ≤ '~') = true ↔ 0x20 ≤ c.toNat ∧ c.toNat ≤ 0x7E := by
    simp [Char.le_def, UInt32.le_iff_toNat_le]
  have valid : c.toNat < 0x110000 := by
    rcases c.valid with low | high
    · exact low.trans (by decide)
    · exact high.2
  rw [hidden_iff valid]
  simp only [isUnprintable, Bool.and_eq_true, Bool.or_eq_true, or_assoc]
  constructor
  · rintro ⟨-, h⟩
    exact h
  · intro h
    have untyped := Bool.eq_false_iff.mpr (mt typed.mp (not_typed h))
    refine ⟨?_, h⟩
    rw [untyped]
    rfl

theorem escaped_unnamed {c : Char} (typed : c ∉ ['"', '\\'])
    (control : c ∉ ['\x00', '\t', '\r', '\n']) :
    escaped c = if isUnprintable c then codePoint c else [c] := by
  unfold escaped
  split <;> simp_all

theorem toNat_pos {c : Char} (named : c ≠ '\x00') : 0 < c.toNat :=
  Nat.pos_of_ne_zero fun zero => named (Char.toNat_inj.mp zero)

theorem shown_iff {c : Char} {text : List Char} : Shown c text ↔ text = escaped c := by
  have typed : ['"', '\\'].all (!isUnprintable ·) = true := by decide
  have control : ['\x00', '\t', '\r', '\n'].all isUnprintable = true := by decide
  rw [List.all_eq_true] at typed control
  constructor
  · intro shown
    cases shown with
    | quote | backslash | null | tab | carriageReturn | newline => rfl
    | code hidden unnamed spells leading =>
      have unprintable := isUnprintable_iff.mpr hidden
      have named : c ≠ '\x00' := fun null => unnamed (by simp [null])
      have digits := spells.eq_of_leading (by decide) (spells_toDigits _) leading
        (head?_toDigits (toNat_pos named))
      have untyped : c ∉ ['"', '\\'] := by
        intro mem
        have plain := typed c mem
        rw [unprintable] at plain
        cases plain
      rw [escaped_unnamed untyped unnamed, if_pos unprintable, codePoint, digits]
    | itself plain unnamed =>
      have printable := mt isUnprintable_iff.mp plain
      rw [escaped_unnamed unnamed fun mem => printable (control c mem), if_neg printable]
  · rintro rfl
    unfold escaped
    split
    · exact .quote
    · exact .backslash
    · exact .null
    · exact .tab
    · exact .carriageReturn
    · exact .newline
    · rename_i quote backslash null tab carriageReturn newline
      split
      case isTrue unprintable =>
        exact .code (isUnprintable_iff.mp unprintable) (by simp_all) (spells_toDigits _)
          (head?_toDigits (toNat_pos null))
      case isFalse printable =>
        exact .itself (mt isUnprintable_iff.mpr printable) (by simp_all)

/-- Between the quotes each character stands as it is shown, in order. -/
theorem quotes_iff {text : List Char} {message : String} :
    Quotes text message ↔ message = quoted text := by
  have all (shown : List (List Char)) :
      List.Forall₂ Shown text shown ↔ text.map escaped = shown := by
    have one : Shown = fun c shown => escaped c = shown :=
      funext₂ fun _ _ => propext (shown_iff.trans eq_comm)
    rw [← List.forall₂_eq_eq_eq, List.forall₂_map_left_iff, one]
  simp only [Quotes, all, exists_eq_left', quoted, List.flatMap_def]

end Console6502.Text
