/-
Module: SafeDelete.Proofs.Text.Trim
Purpose: What trimming takes off a text: the blanks at its two ends and nothing between them.
Main exports: Text.leadingBlanks, Text.trailingBlanks, Text.trim_decomposition, Text.Solid,
  Text.trimEnd_append_of_visible, Text.trim_append_of_blank, Text.trim_blank_append,
  Text.trim_append_of_solid
-/
import Mathlib.Data.List.DropRight
import SafeDelete.Text.Blank

namespace SafeDelete.Text

/-- The blanks that trimming takes off the front of a text. -/
def leadingBlanks (text : Text) : Text :=
  text.takeWhile SafeDelete.isBlank

/-- The blanks that trimming takes off the back of a text, once the front is trimmed. -/
def trailingBlanks (text : Text) : Text :=
  (trimStart text).rtakeWhile SafeDelete.isBlank

/-- A text with no blank at either end. -/
structure Solid (text : Text) : Prop where
  front : ∀ c ∈ text.head?, SafeDelete.isBlank c = false
  back : ∀ c ∈ text.getLast?, SafeDelete.isBlank c = false

theorem isBlank_iff {text : Text} :
    isBlank text = true ↔ ∀ c ∈ text, SafeDelete.isBlank c = true := by
  simp [isBlank]

theorem isBlank_append {front back : Text} :
    isBlank (front ++ back) = true ↔ isBlank front = true ∧ isBlank back = true := by
  simp [isBlank]

theorem isBlank_leadingBlanks (text : Text) : isBlank (leadingBlanks text) = true :=
  isBlank_iff.mpr fun _ mem => List.mem_takeWhile_imp mem

theorem isBlank_trailingBlanks (text : Text) : isBlank (trailingBlanks text) = true :=
  isBlank_iff.mpr fun _ mem => List.mem_rtakeWhile_imp mem

/-- A text is what trimming leaves of it between the blanks that trimming takes off. -/
theorem trim_decomposition (text : Text) :
    leadingBlanks text ++ (trim text ++ trailingBlanks text) = text := by
  have back : trim text ++ trailingBlanks text = trimStart text :=
    List.rdropWhile_append_rtakeWhile
  rw [back]
  exact List.takeWhile_append_dropWhile

theorem trimStart_eq_nil_iff {text : Text} : trimStart text = [] ↔ isBlank text = true := by
  simp [trimStart, isBlank]

theorem trim_eq_nil_iff {text : Text} : trim text = [] ↔ isBlank text = true := by
  constructor
  · intro nothing
    rw [← trim_decomposition text, nothing, List.nil_append, isBlank_append]
    exact ⟨isBlank_leadingBlanks text, isBlank_trailingBlanks text⟩
  · intro blank
    rw [trim, trimStart_eq_nil_iff.mpr blank]
    rfl

/-- Nothing is left at the ends that could be trimmed. -/
theorem solid_trim (text : Text) : Solid (trim text) := by
  constructor
  · intro c mem
    have start : c ∈ (trimStart text).head? := by
      obtain ⟨rest, eq⟩ := List.rdropWhile_prefix SafeDelete.isBlank (trimStart text)
      rw [← eq]
      exact List.mem_head?_append_of_mem_head? mem
    have nonempty : trimStart text ≠ [] := by
      intro nothing
      simp [nothing] at start
    rw [List.head?_eq_some_head nonempty, Option.mem_some_iff] at start
    rw [← start]
    exact List.head_dropWhile_not SafeDelete.isBlank nonempty
  · intro c mem
    obtain ⟨nonempty, rfl⟩ := List.mem_getLast?_eq_getLast mem
    exact Bool.eq_false_iff.mpr (List.rdropWhile_last_not _ _ nonempty)

/-- A text that starts with no blank keeps its front. -/
theorem trimStart_of_front {text : Text}
    (front : ∀ c ∈ text.head?, SafeDelete.isBlank c = false) : trimStart text = text := by
  cases text with
  | nil => rfl
  | cons c rest => simp [trimStart, front c rfl]

theorem trimEnd_of_solid {text : Text} (solid : Solid text) : trimEnd text = text := by
  apply List.rdropWhile_eq_self_iff.mpr
  intro nonempty
  rw [solid.back _ (List.getLast?_eq_some_getLast nonempty)]
  simp

theorem trim_of_solid {text : Text} (solid : Solid text) : trim text = text := by
  rw [trim, trimStart_of_front solid.front, trimEnd_of_solid solid]

@[simp] theorem trim_trim (text : Text) : trim (trim text) = trim text :=
  trim_of_solid (solid_trim text)

theorem trimEnd_append_of_blank (text : Text) {blanks : Text} (blank : isBlank blanks = true) :
    trimEnd (text ++ blanks) = trimEnd text := by
  have front : blanks.reverse.dropWhile SafeDelete.isBlank = [] := by
    simpa [isBlank] using blank
  simp [trimEnd, List.dropWhile_append, front]

/-- Trimming the back works on the last text alone, unless that is blank. -/
theorem trimEnd_append_of_visible (front : Text) {back : Text} (visible : isBlank back = false) :
    trimEnd (front ++ back) = front ++ trimEnd back := by
  have some : (back.reverse.dropWhile SafeDelete.isBlank).isEmpty = false := by
    simpa [isBlank] using visible
  simp [trimEnd, List.dropWhile_append, some]

theorem trimStart_blank_append {blanks : Text} (blank : isBlank blanks = true) (text : Text) :
    trimStart (blanks ++ text) = trimStart text := by
  have front : blanks.dropWhile SafeDelete.isBlank = [] := trimStart_eq_nil_iff.mpr blank
  simp [trimStart, List.dropWhile_append, front]

theorem trim_blank_append {blanks : Text} (blank : isBlank blanks = true) (text : Text) :
    trim (blanks ++ text) = trim text := by
  rw [trim, trimStart_blank_append blank, trim]

theorem trim_append_of_blank (text : Text) {blanks : Text} (blank : isBlank blanks = true) :
    trim (text ++ blanks) = trim text := by
  by_cases textBlank : isBlank text = true
  · rw [trim_eq_nil_iff.mpr textBlank, trim_eq_nil_iff, isBlank_append]
    exact ⟨textBlank, blank⟩
  · have kept : trimStart (text ++ blanks) = trimStart text ++ blanks := by
      have start : (text.dropWhile SafeDelete.isBlank).isEmpty = false := by
        simpa [← trimStart_eq_nil_iff, trimStart] using textBlank
      rw [trimStart, List.dropWhile_append, start]
      rfl
    rw [trim, kept, trimEnd_append_of_blank _ blank, trim]

/-- Behind a text that starts and ends with no blank, trimming works on what follows alone. -/
theorem trim_append_of_solid {text : Text} (solid : Solid text) (nonempty : text ≠ [])
    (later : Text) : trim (text ++ later) = text ++ trimEnd later := by
  have start : trimStart (text ++ later) = text ++ later := by
    cases text with
    | nil => exact absurd rfl nonempty
    | cons c rest => simp [trimStart, solid.front c rfl]
  have back : text.reverse.dropWhile SafeDelete.isBlank = text.reverse := by
    have kept := trimEnd_of_solid solid
    rw [trimEnd, List.reverse_eq_iff] at kept
    exact kept
  rw [trim, start]
  simp only [trimEnd, List.reverse_append, List.dropWhile_append, back]
  split <;> simp_all

end SafeDelete.Text
