import Console6502.Text.Blank
import Mathlib.Data.List.TakeWhile

namespace Console6502.Text

/-- A text without the blanks at its ends. -/
structure Trimmed (text t : List Char) : Prop where
  cut : ∃ front back, text = front ++ t ++ back ∧ (∀ c ∈ front, isBlank c) ∧ ∀ c ∈ back, isBlank c
  first : ∀ c ∈ t.head?, ¬ isBlank c
  last : ∀ c ∈ t.getLast?, ¬ isBlank c

theorem trimFront_append {front : List Char} (h : ∀ c ∈ front, isBlank c) (text : List Char) :
    trimFront (front ++ text) = trimFront text :=
  List.dropWhile_append_of_pos h

theorem trimBack_append {back : List Char} (h : ∀ c ∈ back, isBlank c) (text : List Char) :
    trimBack (text ++ back) = trimBack text := by
  rw [trimBack, List.reverse_append, trimFront_append fun c hc => h c (List.mem_reverse.mp hc)]
  rfl

theorem trimFront_first (text : List Char) : ∀ c ∈ (trimFront text).head?, ¬ isBlank c := by
  intro c hc
  have stop := List.head?_dropWhile_not isBlank text
  rw [← trimFront, Option.mem_def.mp hc] at stop
  simpa using stop

theorem trimFront_of_first {text : List Char} (h : ∀ c ∈ text.head?, ¬ isBlank c) :
    trimFront text = text := by
  cases text with
  | nil => rfl
  | cons c text =>
    have kept : ¬ isBlank c := h c rfl
    simp [trimFront, kept]

theorem trimBack_of_last {text : List Char} (h : ∀ c ∈ text.getLast?, ¬ isBlank c) :
    trimBack text = text := by
  rw [trimBack, trimFront_of_first (by simpa using h), List.reverse_reverse]

theorem trimFront_cut (text : List Char) :
    ∃ front, text = front ++ trimFront text ∧ ∀ c ∈ front, isBlank c :=
  ⟨text.takeWhile isBlank, List.takeWhile_append_dropWhile.symm, fun _ => List.mem_takeWhile_imp⟩

theorem trimBack_cut (text : List Char) :
    ∃ back, text = trimBack text ++ back ∧ ∀ c ∈ back, isBlank c := by
  obtain ⟨front, cut, blank⟩ := trimFront_cut text.reverse
  refine ⟨front.reverse, ?_, by simpa using blank⟩
  rw [trimBack, ← List.reverse_append, ← cut, List.reverse_reverse]

theorem trimmed_trim (text : List Char) : Trimmed text (trim text) := by
  obtain ⟨front, cut, front_blank⟩ := trimFront_cut text
  obtain ⟨back, cut', back_blank⟩ := trimBack_cut (trimFront text)
  refine ⟨⟨front, back, ?_, front_blank, back_blank⟩, ?_, ?_⟩
  · rw [List.append_assoc, trim, ← cut', ← cut]
  · intro c hc
    apply trimFront_first text
    rw [trim] at hc
    rw [cut', List.head?_append, Option.mem_def.mp hc]
    rfl
  · rw [trim, trimBack, List.getLast?_reverse]
    exact trimFront_first _

/-- There is one way to trim a text. -/
theorem Trimmed.eq_trim {text t : List Char} (h : Trimmed text t) : t = trim text := by
  obtain ⟨⟨front, back, rfl, front_blank, back_blank⟩, first, last⟩ := h
  rw [List.append_assoc, trim, trimFront_append front_blank]
  cases t with
  | nil =>
    have all : trimFront back = [] := List.dropWhile_eq_nil_iff.mpr back_blank
    rw [List.nil_append, all]
    rfl
  | cons c t =>
    rw [trimFront_of_first (by simpa using first), trimBack_append back_blank, trimBack_of_last last]

theorem Trimmed.pad {front text t back : List Char} (h : Trimmed text t)
    (front_blank : ∀ c ∈ front, isBlank c) (back_blank : ∀ c ∈ back, isBlank c) :
    Trimmed (front ++ text ++ back) t := by
  obtain ⟨⟨front', back', rfl, front_blank', back_blank'⟩, first, last⟩ := h
  refine ⟨⟨front ++ front', back' ++ back, by simp, ?_, ?_⟩, first, last⟩
  · exact List.forall_mem_append.mpr ⟨front_blank, front_blank'⟩
  · exact List.forall_mem_append.mpr ⟨back_blank', back_blank⟩

/-- Blanks added at the ends are trimmed with those that are there. -/
theorem trim_pad {front back : List Char} (front_blank : ∀ c ∈ front, isBlank c)
    (back_blank : ∀ c ∈ back, isBlank c) (text : List Char) :
    trim (front ++ text ++ back) = trim text :=
  ((trimmed_trim text).pad front_blank back_blank).eq_trim.symm

theorem trim_map {f : Char → Char} (same : ∀ c, isBlank (f c) = isBlank c) (text : List Char) :
    trim (text.map f) = (trim text).map f := by
  have front (text : List Char) : trimFront (text.map f) = (trimFront text).map f := by
    have blank : isBlank ∘ f = isBlank := funext same
    rw [trimFront, List.dropWhile_map, blank]
    rfl
  rw [trim, trimBack, front, ← List.map_reverse, front, ← List.map_reverse]
  rfl

end Console6502.Text
