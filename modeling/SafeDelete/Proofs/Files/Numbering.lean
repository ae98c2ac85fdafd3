/-
Module: SafeDelete.Proofs.Files.Numbering
Purpose: Names with a number: where the number goes, and that different numbers make different names.
Main exports: PathName.IsCut, PathName.isCut_splitName, PathName.numberedName_injective,
  PathName.isNamed_numbered
-/
import Mathlib.Data.List.TakeWhile
import SafeDelete.Proofs.Files.Reach

namespace SafeDelete

open FileSystem

theorem decimal_injective {number other : Nat} (same : decimal number = decimal other) :
    number = other := by
  have back := fun number : Nat =>
    @Nat.ofDigitChars_toDigits 10 number (by decide) (by decide)
  rw [← back number, ← back other]
  exact congrArg (Nat.ofDigitChars 10 · 0) same

theorem slash_not_mem_decimal (number : Nat) : '/' ∉ decimal number := by
  intro mem
  have digit := Nat.isDigit_of_mem_toDigits (by decide) (by decide) mem
  contradiction

namespace PathName

/-! ## Stem and suffix -/

/-- A name cut in two.  The suffix starts at the last dot of the name, unless that dot is its first
or its last character; then, and where there is no dot, the name has no suffix. -/
inductive IsCut : (name stem suffix : Text) → Prop where
  | dotted {stem extension : Text} (stemNonempty : stem ≠ []) (nonempty : extension ≠ [])
      (last : '.' ∉ extension) : IsCut (stem ++ '.' :: extension) stem ('.' :: extension)
  | whole {name : Text}
      (outer : ∀ front back, name = front ++ '.' :: back → '.' ∉ back → front = [] ∨ back = []) :
      IsCut name name []

theorem IsCut.append_eq {name stem suffix : Text} (cut : IsCut name stem suffix) :
    stem ++ suffix = name := by
  cases cut with
  | dotted => rfl
  | whole => exact List.append_nil name

/-- What follows the last dot. -/
theorem takeWhile_reverse_of_dot {front back : Text} (last : '.' ∉ back) :
    ((front ++ '.' :: back).reverse.takeWhile (· ≠ '.')).reverse = back := by
  have noDot : ∀ c ∈ back.reverse, decide (c ≠ '.') = true := by
    intro c mem
    simpa using fun dot : c = '.' => last (dot ▸ List.mem_reverse.mp mem)
  rw [List.reverse_append, List.reverse_cons, List.append_assoc,
    List.takeWhile_append_of_pos noDot, List.singleton_append,
    List.takeWhile_cons_of_neg (by simp), List.append_nil, List.reverse_reverse]

theorem exists_last_dot {name : Text} (dotted : '.' ∈ name) :
    ∃ front back, name = front ++ '.' :: back ∧ '.' ∉ back := by
  obtain ⟨back, front, eq, first⟩ := List.eq_append_cons_of_mem (List.mem_reverse.mpr dotted)
  refine ⟨front.reverse, back.reverse, ?_, by simpa using first⟩
  rw [← List.reverse_reverse name, eq]
  simp

theorem splitName_of_dot {front back : Text} (last : '.' ∉ back) :
    splitName (front ++ '.' :: back) =
      if back.isEmpty ∨ front.isEmpty then (front ++ '.' :: back, []) else (front, '.' :: back) := by
  have length : (front ++ '.' :: back).length - back.length - 1 = front.length := by
    simp only [List.length_append, List.length_cons]
    omega
  rw [splitName, takeWhile_reverse_of_dot last]
  simp only [length, List.take_left]

theorem splitName_of_not_mem {name : Text} (noDot : '.' ∉ name) : splitName name = (name, []) := by
  have whole : (name.reverse.takeWhile (· ≠ '.')).reverse = name := by
    rw [List.takeWhile_eq_self_iff.mpr, List.reverse_reverse]
    intro c mem
    simpa using fun dot : c = '.' => noDot (dot ▸ List.mem_reverse.mp mem)
  rw [splitName, whole]
  simp

/-- Every name is cut where it should be. -/
theorem isCut_splitName (name : Text) : IsCut name (splitName name).1 (splitName name).2 := by
  by_cases dotted : '.' ∈ name
  · obtain ⟨front, back, rfl, last⟩ := exists_last_dot dotted
    rw [splitName_of_dot last]
    split
    · rename_i outer
      refine .whole fun front' back' same last' => ?_
      -- There is only one last dot.
      obtain rfl : back = back' := by
        rw [← takeWhile_reverse_of_dot last, same, takeWhile_reverse_of_dot last']
      obtain rfl := List.append_cancel_right same
      simpa [or_comm] using outer
    · rename_i inner
      obtain ⟨nonempty, stemNonempty⟩ : back ≠ [] ∧ front ≠ [] := by simpa using inner
      exact .dotted stemNonempty nonempty last
  · rw [splitName_of_not_mem dotted]
    exact .whole fun front back same _ => absurd (by simp [same]) dotted

/-! ## Numbered names -/

theorem numberedName_eq (name : Text) (number : Nat) :
    numberedName name number =
      (splitName name).1 ++ ' ' :: (decimal number ++ (splitName name).2) := by
  simp [numberedName]

theorem numberedName_injective {name : Text} {number other : Nat}
    (same : numberedName name number = numberedName name other) : number = other := by
  rw [numberedName_eq, numberedName_eq, List.append_cancel_left_eq, List.cons.injEq] at same
  exact decimal_injective (List.append_cancel_right same.2)

theorem isName_numberedName {name : Text} (noSlash : '/' ∉ name) (number : Nat) :
    IsName (numberedName name number) := by
  have space : ' ' ∈ numberedName name number := by simp [numberedName_eq]
  refine ⟨List.ne_nil_of_mem space, ?_, ?_, ?_⟩
  · intro same
    exact absurd (same ▸ space) (by decide)
  · intro same
    exact absurd (same ▸ space) (by decide)
  · intro slash
    rw [← (isCut_splitName name).append_eq, List.mem_append] at noSlash
    simp only [numberedName_eq, List.mem_append, List.mem_cons] at slash
    rcases slash with stem | space | digits | suffix
    · exact noSlash (Or.inl stem)
    · exact absurd space (by decide)
    · exact slash_not_mem_decimal number digits
    · exact noSlash (Or.inr suffix)

theorem slash_not_mem_name {path : PathName} (proper : path.Proper) : '/' ∉ path.name := by
  rcases List.eq_nil_or_concat path.parts with empty | ⟨front, last, parts⟩
  · simp [name, empty]
  · rw [List.concat_eq_append] at parts
    have named : path.name = last := by simp [name, parts]
    exact named ▸ (proper last (by simp [parts])).2.2

@[simp] theorem parent_numbered (path : PathName) (number : Nat) :
    (path.numbered number).parent = path.parent := by
  simp [numbered, withName, parent]

@[simp] theorem name_numbered (path : PathName) (number : Nat) :
    (path.numbered number).name = numberedName path.name number := by
  simp [numbered, withName]

theorem isNamed_numbered {path : PathName} (proper : path.Proper) (number : Nat) :
    (path.numbered number).IsNamed := by
  have front : (⟨path.root, path.parts.dropLast⟩ : PathName).Proper := fun part mem =>
    proper part (List.dropLast_subset _ mem)
  exact isNamed_append front (isName_numberedName (slash_not_mem_name proper) number)

end PathName

end SafeDelete
