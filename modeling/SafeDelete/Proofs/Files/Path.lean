/-
Module: SafeDelete.Proofs.Files.Path
Purpose: The names that a written path consists of, and paths built name by name.
Main exports: PathName.Proper, PathName.proper_ofText, PathName.below_of_isName,
  PathName.names_toText, PathName.mem_absolute, PathName.start_toText
-/
import SafeDelete.Files.PathName
import SafeDelete.Proofs.Files.Tree

namespace SafeDelete

open FileSystem

/-! ## Parts between separators -/

namespace Text

theorem splitOn_of_not_mem {separator : Char} {text : Text} (free : separator ∉ text) :
    splitOn separator text = [text] := by
  induction text with
  | nil => rfl
  | cons c rest ih =>
      obtain ⟨other, restFree⟩ : ¬separator = c ∧ separator ∉ rest := by simpa using free
      rw [splitOn, if_neg (Ne.symm other), ih restFree]

theorem splitOn_append_separator {separator : Char} {text : Text} (free : separator ∉ text)
    (rest : Text) :
    splitOn separator (text ++ separator :: rest) = text :: splitOn separator rest := by
  induction text with
  | nil => simp [splitOn]
  | cons c text ih =>
      obtain ⟨other, textFree⟩ : ¬separator = c ∧ separator ∉ text := by simpa using free
      rw [List.cons_append, splitOn, if_neg (Ne.symm other), ih textFree]

theorem splitOn_join {separator : Char} {parts : List Text} (some : parts ≠ [])
    (free : ∀ part ∈ parts, separator ∉ part) :
    splitOn separator (join [separator] parts) = parts := by
  induction parts with
  | nil => exact absurd rfl some
  | cons part rest ih =>
      have freePart := free part List.mem_cons_self
      cases rest with
      | nil => exact splitOn_of_not_mem freePart
      | cons next rest =>
          rw [join, List.append_assoc, List.singleton_append, splitOn_append_separator freePart,
            ih (by simp) fun part mem => free part (List.mem_cons_of_mem _ mem)]

theorem not_mem_of_mem_splitOn {separator : Char} {text part : Text}
    (mem : part ∈ splitOn separator text) : separator ∉ part := by
  induction text generalizing part with
  | nil => simp_all [splitOn]
  | cons c rest ih =>
      rw [splitOn] at mem
      split at mem
      · rcases List.mem_cons.mp mem with rfl | later
        · simp
        · exact ih later
      · rename_i other
        cases parts : splitOn separator rest with
        | nil =>
            rw [parts] at mem
            obtain rfl := List.mem_singleton.mp mem
            simpa [eq_comm] using other
        | cons first others =>
            rw [parts] at mem
            rcases List.mem_cons.mp mem with rfl | later
            · have firstFree : separator ∉ first := ih (by simp [parts])
              simp [firstFree, Ne.symm other]
            · exact ih (by simp [parts, later])

theorem mem_of_mem_splitOn {separator c : Char} {text part : Text}
    (mem : part ∈ splitOn separator text) (inPart : c ∈ part) : c ∈ text := by
  induction text generalizing part with
  | nil => simp_all [splitOn]
  | cons first rest ih =>
      rw [splitOn] at mem
      split at mem
      · rcases List.mem_cons.mp mem with rfl | later
        · simp at inPart
        · exact List.mem_cons_of_mem _ (ih later inPart)
      · cases parts : splitOn separator rest with
        | nil =>
            rw [parts] at mem
            obtain rfl := List.mem_singleton.mp mem
            exact List.mem_cons.mpr (Or.inl (List.mem_singleton.mp inPart))
        | cons front others =>
            rw [parts] at mem
            rcases List.mem_cons.mp mem with rfl | later
            · rcases List.mem_cons.mp inPart with here | behind
              · exact List.mem_cons.mpr (Or.inl here)
              · exact List.mem_cons_of_mem _ (ih (by simp [parts]) behind)
            · exact List.mem_cons_of_mem _ (ih (by simp [parts, later]) inPart)

theorem mem_join {separator : Text} {c : Char} {parts : List Text}
    (mem : c ∈ join separator parts) : c ∈ separator ∨ ∃ part ∈ parts, c ∈ part := by
  induction parts with
  | nil => exact absurd mem List.not_mem_nil
  | cons part rest ih =>
      cases rest with
      | nil => exact Or.inr ⟨part, List.mem_singleton_self part, mem⟩
      | cons next rest =>
          rw [join] at mem
          rcases List.mem_append.mp mem with front | back
          · rcases List.mem_append.mp front with inPart | between
            · exact Or.inr ⟨part, List.mem_cons_self, inPart⟩
            · exact Or.inl between
          · rcases ih back with between | ⟨other, later, inOther⟩
            · exact Or.inl between
            · exact Or.inr ⟨other, List.mem_cons_of_mem _ later, inOther⟩

theorem join_concat {separator last : Text} {front : List Text} (some : front ≠ []) :
    join separator (front ++ [last]) = join separator front ++ separator ++ last := by
  induction front with
  | nil => exact absurd rfl some
  | cons part rest ih =>
      cases rest with
      | nil => rfl
      | cons next rest =>
          have back := ih (by simp)
          rw [List.cons_append] at back
          rw [List.cons_append, List.cons_append, join, back, join]
          simp only [List.append_assoc]

theorem getLast?_join {separator : Text} {front : List Text} {last : Text} (some : last ≠ []) :
    (join separator (front ++ [last])).getLast? = last.getLast? := by
  induction front with
  | nil => rfl
  | cons part rest ih =>
      have more : rest ++ [last] ≠ [] := by simp
      cases joined : rest ++ [last] with
      | nil => exact absurd joined more
      | cons next others =>
          obtain ⟨c, ending⟩ :=
            Option.ne_none_iff_exists'.mp (List.getLast?_eq_none_iff.not.mpr some)
          rw [List.cons_append, joined, join, ← joined, List.getLast?_append, ih, ending]
          rfl

end Text

/-! ## Paths that are written and read -/

namespace PathName

/-- No part of the path is empty, a single dot or cut by a slash. -/
def Proper (path : PathName) : Prop :=
  ∀ part ∈ path.parts, part ≠ [] ∧ part ≠ itself ∧ '/' ∉ part

theorem proper_ofText (text : Text) : (ofText text).Proper := by
  intro part mem
  obtain ⟨split, proper⟩ := List.mem_filter.mp mem
  obtain ⟨nonempty, notItself⟩ : part ≠ [] ∧ part ≠ "." := by simpa using proper
  exact ⟨nonempty, notItself, Text.not_mem_of_mem_splitOn split⟩

theorem Proper.join {path next : PathName} (proper : path.Proper) (properNext : next.Proper) :
    (path.join next).Proper := by
  unfold PathName.join
  split
  · intro part mem
    rcases List.mem_append.mp mem with front | back
    · exact proper part front
    · exact properNext part back
  · exact properNext

theorem Proper.below {path : PathName} (proper : path.Proper) (text : Text) :
    (path.below text).Proper :=
  proper.join (proper_ofText text)

theorem ofText_of_isName {name : Text} (named : IsName name) :
    ofText name = ⟨.relative, [name]⟩ := by
  have start : PathRoot.ofText name = .relative := by
    have noSlash := named.noSlash
    unfold PathRoot.ofText
    split <;> simp_all
  have notDot : name ≠ ['.'] := named.ne_itself
  simp [ofText, start, Text.splitOn_of_not_mem named.noSlash, named.nonempty, notDot]

theorem below_of_isName (path : PathName) {name : Text} (named : IsName name) :
    path.below name = ⟨path.root, path.parts ++ [name]⟩ := by
  rw [below, ofText_of_isName named]
  rfl

@[simp] theorem name_mk_append (root : PathRoot) (parts : List Text) (name : Text) :
    (⟨root, parts ++ [name]⟩ : PathName).name = name := by
  simp [PathName.name]

theorem toText_of_parts {root : PathRoot} {parts : List Text} (some : parts ≠ []) :
    toText ⟨root, parts⟩ = root.text ++ Text.join "/" parts := by
  cases parts with
  | nil => exact absurd rfl some
  | cons part rest => cases root <;> rfl

theorem toText_append {root : PathRoot} {parts : List Text} (some : parts ≠ []) (name : Text) :
    toText ⟨root, parts ++ [name]⟩ = toText ⟨root, parts⟩ ++ '/' :: name := by
  rw [toText_of_parts (by simp), toText_of_parts some, Text.join_concat some]
  simp

/-- Paths that share all but their last part share all but the end of their text. -/
theorem exists_toText_append (root : PathRoot) (parts : List Text) :
    ∃ lead, ∀ name, toText ⟨root, parts ++ [name]⟩ = lead ++ name := by
  by_cases empty : parts = []
  · exact ⟨root.text, fun name => by rw [empty, toText_of_parts (by simp)]; rfl⟩
  · exact ⟨toText ⟨root, parts⟩ ++ ['/'], fun name => by simp [toText_append empty]⟩

theorem toText_ne_nil (path : PathName) (proper : path.Proper) : path.toText ≠ [] := by
  obtain ⟨root, parts⟩ := path
  rcases List.eq_nil_or_concat parts with rfl | ⟨front, last, rfl⟩
  · cases root <;> decide
  · rw [List.concat_eq_append] at *
    have nonempty := (proper last (by simp)).1
    rw [toText_of_parts (by simp)]
    intro empty
    have joined := (List.append_eq_nil_iff.mp empty).2
    have last? := @Text.getLast?_join "/" front last nonempty
    rw [joined, List.getLast?_nil, eq_comm, List.getLast?_eq_none_iff] at last?
    exact nonempty last?

/-- A path is written from its names, and these are read back. -/
theorem names_toText {path : PathName} (proper : path.Proper)
    (some : path.root ≠ .relative ∨ path.parts ≠ []) : names path.toText = path.parts := by
  obtain ⟨root, parts⟩ := path
  rcases List.eq_nil_or_concat parts with rfl | ⟨front, last, rfl⟩
  · cases root with
    | relative => simp at some
    | slash => decide
    | twoSlashes => decide
  rw [List.concat_eq_append] at *
  have split : (Text.splitOn '/' (toText ⟨root, front ++ [last]⟩)).filter (fun part => part ≠ []) =
      front ++ [last] := by
    have joined : (Text.splitOn '/' (Text.join "/" (front ++ [last]))).filter
        (fun part => part ≠ []) = front ++ [last] := by
      have parts := @Text.splitOn_join '/' (front ++ [last]) (by simp)
        fun part mem => (proper part mem).2.2
      rw [show ("/" : Text) = ['/'] from rfl, parts, List.filter_eq_self]
      exact fun part mem => by simpa using (proper part mem).1
    rw [toText_of_parts (by simp)]
    cases root with
    | relative => exact joined
    | slash => exact joined
    | twoSlashes => exact joined
  have open' : ¬Text.endsWith "/" (toText ⟨root, front ++ [last]⟩) := by
    rw [toText_of_parts (by simp), Text.endsWith, List.isSuffixOf_iff_suffix]
    rintro ⟨before, same⟩
    have nonempty := (proper last (by simp)).1
    have ending := congrArg List.getLast? same
    obtain ⟨c, found⟩ := Option.ne_none_iff_exists'.mp (List.getLast?_eq_none_iff.not.mpr nonempty)
    rw [List.getLast?_append, List.getLast?_append, Text.getLast?_join nonempty, found] at ending
    obtain rfl : '/' = c := by simpa using ending
    exact (proper last (by simp)).2.2 (List.mem_of_getLast? found)
  rw [names, split, if_neg fun closed => open' closed.1]

/-- The names of a path are parts of its text, but for the empty one at the end. -/
theorem mem_names {text name : Text} (mem : name ∈ names text) :
    name ∈ text.splitOn '/' ∨ name = [] := by
  unfold names at mem
  dsimp only at mem
  split at mem
  · rcases List.mem_append.mp mem with named | ending
    · exact Or.inl (List.mem_filter.mp named).1
    · exact Or.inr (List.mem_singleton.mp ending)
  · exact Or.inl (List.mem_filter.mp mem).1

theorem slash_not_mem_of_mem_names {text name : Text} (mem : name ∈ names text) : '/' ∉ name := by
  rcases mem_names mem with part | rfl
  · exact Text.not_mem_of_mem_splitOn part
  · exact List.not_mem_nil

/-- A written path has no characters but those of its parts, slashes and a dot. -/
theorem mem_toText {path : PathName} {c : Char} (mem : c ∈ path.toText) :
    c = '/' ∨ c = '.' ∨ ∃ part ∈ path.parts, c ∈ part := by
  obtain ⟨root, parts⟩ := path
  have started : c ∈ root.text → c = '/' := by
    cases root <;> simp [PathRoot.text]
  cases parts with
  | nil =>
      cases root with
      | relative => exact Or.inr (Or.inl (List.mem_singleton.mp mem))
      | slash => exact Or.inl (started (by simpa [toText, Text.join] using mem))
      | twoSlashes => exact Or.inl (started (by simpa [toText, Text.join] using mem))
  | cons part rest =>
      rw [toText_of_parts (by simp)] at mem
      rcases List.mem_append.mp mem with root | joined
      · exact Or.inl (started root)
      · rcases Text.mem_join joined with between | inPart
        · exact Or.inl (List.mem_singleton.mp between)
        · exact Or.inr (Or.inr inPart)

theorem mem_of_mem_collapse {parts : List Text} {part : Text} (mem : part ∈ collapse parts) :
    part ∈ parts := by
  have kept : ∀ {kept}, part ∈ parts.foldl
      (fun kept part => if part = above then kept.dropLast else kept ++ [part]) kept →
        part ∈ kept ∨ part ∈ parts := by
    clear mem
    induction parts with
    | nil => exact fun mem => .inl mem
    | cons first rest ih =>
        intro kept mem
        rcases ih mem with old | new
        · dsimp only at old
          split at old
          · exact .inl (List.dropLast_subset _ old)
          · rcases List.mem_append.mp old with old | same
            · exact .inl old
            · exact .inr (List.mem_singleton.mp same ▸ List.mem_cons_self)
        · exact .inr (List.mem_cons_of_mem _ new)
  exact (kept mem).resolve_left List.not_mem_nil

theorem mem_of_mem_parts {text part : Text} {c : Char} (mem : part ∈ (ofText text).parts)
    (inPart : c ∈ part) : c ∈ text :=
  Text.mem_of_mem_splitOn (List.mem_filter.mp mem).1 inPart

/-- A path made absolute has the characters of its text and of the working directory. -/
theorem mem_absolute {here : List Text} {text : Text} {c : Char}
    (mem : c ∈ (absolute here text).toText) :
    c = '/' ∨ c = '.' ∨ c ∈ text ∨ ∃ name ∈ here, c ∈ name := by
  rcases mem_toText mem with slash | dot | ⟨part, inParts, inPart⟩
  · exact .inl slash
  · exact .inr (.inl dot)
  · refine .inr (.inr ?_)
    unfold absolute at inParts
    dsimp only at inParts
    split at inParts
    · rcases List.mem_append.mp (mem_of_mem_collapse inParts) with old | new
      · exact .inr ⟨part, old, inPart⟩
      · exact .inl (mem_of_mem_parts new inPart)
    · exact .inl (mem_of_mem_parts (mem_of_mem_collapse inParts) inPart)

/-- A path that is written starts at the root, or where the process works. -/
theorem start_toText {path : PathName} (proper : path.Proper) (here : Place) :
    start here path.toText = if path.root = .relative then here else [] := by
  obtain ⟨root, parts⟩ := path
  cases parts with
  | nil => cases root <;> rfl
  | cons part rest =>
      rw [start, toText_of_parts (by simp), Text.startsWith]
      cases root with
      | slash => rfl
      | twoSlashes => rfl
      | relative =>
          obtain ⟨nonempty, -, noSlash⟩ := proper part (by simp)
          cases part with
          | nil => exact absurd rfl nonempty
          | cons c part =>
              have other : '/' ≠ c := fun same => noSlash (same ▸ List.mem_cons_self)
              cases rest <;> simp [PathRoot.text, Text.join, other]

end PathName

end SafeDelete
