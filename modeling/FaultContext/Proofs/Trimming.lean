import Mathlib.Data.List.TakeWhile
import FaultContext.Text.CharacterClass

/-!
# Trimming

What is left of a text when the white space around it is taken away: the one part that neither begins nor
ends with white space and has nothing else around it. White space that is put around a text therefore
goes when the text is trimmed.
-/

namespace FaultContext.Text

set_option autoImplicit false

variable {text front back body : Text}

/-- There is nothing but white space in the text. -/
def Blank (text : Text) : Prop := ∀ c ∈ text, isBlank c = true

instance (text : Text) : Decidable (Blank text) :=
  List.decidableBAll (fun c => isBlank c = true) text

theorem blank_append : Blank (front ++ back) ↔ Blank front ∧ Blank back := List.forall_mem_append

theorem blank_reverse : Blank text.reverse ↔ Blank text := by
  simp only [Blank, List.mem_reverse]

theorem trim_start_eq_nil_iff : trimStart text = [] ↔ Blank text := List.dropWhile_eq_nil_iff

theorem trim_start_append (blank : Blank front) (text : Text) :
    trimStart (front ++ text) = trimStart text :=
  List.dropWhile_append_of_pos blank

theorem trim_end_eq (text : Text) : trimEnd text = (trimStart text.reverse).reverse := rfl

theorem trim_end_append (blank : Blank back) (text : Text) : trimEnd (text ++ back) = trimEnd text := by
  rw [trim_end_eq, List.reverse_append, trim_start_append (blank_reverse.2 blank)]
  rfl

/-- The text is white space and then what is left of it. -/
theorem trim_start_parts (text : Text) : ∃ front, Blank front ∧ text = front ++ trimStart text :=
  ⟨text.takeWhile isBlank, List.all_eq_true.1 List.all_takeWhile,
    List.takeWhile_append_dropWhile.symm⟩

theorem trim_end_parts (text : Text) : ∃ back, Blank back ∧ text = trimEnd text ++ back := by
  obtain ⟨front, blank, parts⟩ := trim_start_parts text.reverse
  refine ⟨front.reverse, blank_reverse.2 blank, ?_⟩
  rw [trim_end_eq, ← List.reverse_append, ← parts, List.reverse_reverse]

theorem trim_start_of_head (solid : text.head?.any isBlank = false) : trimStart text = text := by
  cases text with
  | nil => rfl
  | cons c rest => exact List.dropWhile_cons_of_neg (by simpa using solid)

theorem trim_start_head (text : Text) : (trimStart text).head?.any isBlank = false := by
  have first := List.head?_dropWhile_not isBlank text
  cases found : (trimStart text).head? with
  | none => rfl
  | some c =>
      rw [trimStart] at found
      simpa [found] using first

theorem trim_end_of_last (solid : text.getLast?.any isBlank = false) : trimEnd text = text := by
  rw [← List.head?_reverse] at solid
  rw [trim_end_eq, trim_start_of_head solid, List.reverse_reverse]

theorem trim_end_last (text : Text) : (trimEnd text).getLast?.any isBlank = false := by
  rw [trim_end_eq, List.getLast?_reverse]
  exact trim_start_head text.reverse

theorem trim_blank_append (blank : Blank front) (text : Text) : trim (front ++ text) = trim text := by
  rw [trim, trim_start_append blank]
  rfl

theorem trim_append_blank (blank : Blank back) (text : Text) : trim (text ++ back) = trim text := by
  by_cases nothing : Blank text
  · rw [trim, trim, trim_start_eq_nil_iff.2 (blank_append.2 ⟨nothing, blank⟩),
      trim_start_eq_nil_iff.2 nothing]
  · have solid : (text.dropWhile isBlank).isEmpty = false := by
      rw [List.isEmpty_eq_false_iff]
      exact fun left => nothing (trim_start_eq_nil_iff.1 left)
    have kept : trimStart (text ++ back) = trimStart text ++ back := by
      rw [trimStart, List.dropWhile_append, solid]
      rfl
    rw [trim, kept, trim_end_append blank]
    rfl

/-- A part of a text that has only white space around it, and none at its own ends. -/
structure Trimmed (text body : Text) : Prop where
  parts : ∃ front back, Blank front ∧ Blank back ∧ text = front ++ body ++ back
  begins : body.head?.any isBlank = false
  ends : body.getLast?.any isBlank = false

theorem trimmed_iff : Trimmed text body ↔ body = trim text := by
  constructor
  · rintro ⟨⟨front, back, blankFront, blankBack, rfl⟩, begins, ends⟩
    rw [trim_append_blank blankBack, trim_blank_append blankFront, trim, trim_start_of_head begins,
      trim_end_of_last ends]
  · rintro rfl
    obtain ⟨front, blankFront, whole⟩ := trim_start_parts text
    obtain ⟨back, blankBack, rest⟩ := trim_end_parts (trimStart text)
    refine ⟨⟨front, back, blankFront, blankBack, ?_⟩, ?_, trim_end_last _⟩
    · rw [trim, List.append_assoc, ← rest]
      exact whole
    · -- What is left begins as the text without the white space in front does, if anything is left.
      have begins := trim_start_head text
      rw [trim]
      cases left : trimEnd (trimStart text) with
      | nil => rfl
      | cons c rest' =>
          rw [rest, left] at begins
          exact begins

/-- What has no white space at its ends is left as it is. -/
theorem trim_of_trimmed (trimmed : Trimmed text body) : trim body = body := by
  have nothing : Blank [] := List.forall_mem_nil _
  apply Eq.symm
  apply trimmed_iff.1
  exact ⟨⟨[], [], nothing, nothing, by simp⟩, trimmed.begins, trimmed.ends⟩

theorem trim_eq_nil_iff : trim text = [] ↔ Blank text := by
  constructor
  · intro nothing
    obtain ⟨front, back, blankFront, blankBack, parts⟩ := (trimmed_iff.2 rfl : Trimmed text _).parts
    rw [parts, nothing, List.append_nil]
    exact blank_append.2 ⟨blankFront, blankBack⟩
  · intro blank
    rw [trim, trim_start_eq_nil_iff.2 blank]
    rfl

end FaultContext.Text
