/-
Module: SafeDelete.Proofs.Shell.Line
Purpose: How words that are put on one line are read back, and what trimming does to such a line.
Main exports: Shell.endMode, Shell.endMode_words, Shell.endMode_congr, Shell.words_unwords,
  Shell.run_unwords, Shell.unwords_lines, Shell.unwords_append_cons, Shell.mem_of_mem_unwords,
  Shell.solid_unwords, Shell.words_trim_append
-/
import SafeDelete.Proofs.Shell.Words

namespace SafeDelete.Shell

/-!
### Words on one line
-/

/-- The mode in which a line of parts ends: that of its last part. -/
def endMode (parts : List Text) : ScanMode :=
  (parts.getLast?.map ScanMode.plain.run).getD .plain

@[simp] theorem endMode_nil : endMode [] = .plain := rfl

@[simp] theorem endMode_singleton (part : Text) : endMode [part] = ScanMode.plain.run part := rfl

theorem endMode_append_of_ne_nil (front : List Text) {back : List Text} (nonempty : back ≠ []) :
    endMode (front ++ back) = endMode back := by
  rw [endMode, List.getLast?_append_of_ne_nil _ nonempty, endMode]

theorem endMode_of_closed {parts : List Text} (closed : ∀ part ∈ parts, Closed part) :
    endMode parts = .plain := by
  cases last : parts.getLast? with
  | none => rw [endMode, last]; rfl
  | some part => rw [endMode, last]; exact closed part (List.mem_of_getLast? last)

theorem closed_of_mem_front {front back : List Text} (closed : ClosedButLast (front ++ back))
    (nonempty : back ≠ []) : ∀ part ∈ front, Closed part := fun _ mem =>
  (List.pairwise_append.mp closed).2.2 _ mem _ (List.head_mem nonempty)

/-- A part that is left open is the last one. -/
theorem endMode_of_not_closed {parts : List Text} (closed : ClosedButLast parts) {part : Text}
    (mem : part ∈ parts) (left : ¬Closed part) : endMode parts = ScanMode.plain.run part := by
  obtain ⟨front, back, rfl⟩ := List.append_of_mem mem
  cases back with
  | nil => exact endMode_append_of_ne_nil front (by simp)
  | cons next rest =>
      rw [List.append_cons] at closed
      exact absurd (closed_of_mem_front closed (by simp) part (by simp)) left

/-- Lines with the same open part end in the same mode. -/
theorem endMode_congr {first second : List Text} (closedFirst : ClosedButLast first)
    (closedSecond : ClosedButLast second)
    (same : ∀ part, ¬Closed part → (part ∈ first ↔ part ∈ second)) :
    endMode first = endMode second := by
  by_cases left : ∃ part ∈ first, ¬Closed part
  · obtain ⟨part, mem, notClosed⟩ := left
    rw [endMode_of_not_closed closedFirst mem notClosed,
      endMode_of_not_closed closedSecond ((same part notClosed).mp mem) notClosed]
  · have allFirst : ∀ part ∈ first, Closed part := by simpa using left
    have allSecond : ∀ part ∈ second, Closed part := by
      intro part mem
      by_contra notClosed
      exact left ⟨part, (same part notClosed).mpr mem, notClosed⟩
    rw [endMode_of_closed allFirst, endMode_of_closed allSecond]

/-- A text ends in the mode in which its last word does. -/
theorem endMode_words (text : Text) : endMode (words text) = ScanMode.plain.run text := by
  induction text using word_induction with
  | unbroken text whole =>
      rw [words_of_unbroken whole]
      cases text <;> rfl
  | separated front c back whole closed separator ih =>
      have plain : ScanMode.plain.run (front ++ c :: back) = ScanMode.plain.run back := by
        rw [closed.run_append, ScanMode.run_cons, (isBare_of_isSeparator separator).step_plain]
      rw [words_append_separator closed separator, plain, ← ih]
      by_cases empty : words back = []
      · rw [empty, List.append_nil, endMode_nil]
        apply endMode_of_closed
        intro word mem
        obtain ⟨rfl, _⟩ := mem_words_of_unbroken whole mem
        exact closed
      · exact endMode_append_of_ne_nil _ empty

theorem unwords_cons {part : Text} {parts : List Text} (nonempty : parts ≠ []) :
    Text.unwords (part :: parts) = part ++ ' ' :: Text.unwords parts := by
  cases parts with
  | nil => exact absurd rfl nonempty
  | cons next rest => simp [Text.unwords, Text.join]

@[simp] theorem unwords_nil : Text.unwords [] = [] := rfl

@[simp] theorem unwords_singleton (part : Text) : Text.unwords [part] = part := rfl

theorem unwords_append {front back : List Text} (nonemptyFront : front ≠ [])
    (nonemptyBack : back ≠ []) :
    Text.unwords (front ++ back) = Text.unwords front ++ ' ' :: Text.unwords back := by
  induction front with
  | nil => exact absurd rfl nonemptyFront
  | cons part front ih =>
      by_cases empty : front = []
      · rw [empty, List.singleton_append, unwords_cons nonemptyBack, unwords_singleton]
      · rw [List.cons_append, unwords_cons (by simp [empty]), ih empty, unwords_cons empty,
          List.append_assoc, List.cons_append]

theorem unwords_cons_eq_flatMap (part : Text) (parts : List Text) :
    Text.unwords (part :: parts) = part ++ parts.flatMap (' ' :: ·) := by
  induction parts generalizing part with
  | nil => simp
  | cons next parts ih => rw [unwords_cons (by simp), ih, List.flatMap_cons, List.cons_append]

/-- Around one part of a line, the others have their blanks on the side of that part. -/
theorem unwords_append_cons (front : List Text) (part : Text) (back : List Text) :
    Text.unwords (front ++ part :: back) =
      front.flatMap (· ++ [' ']) ++ (part ++ back.flatMap (' ' :: ·)) := by
  induction front with
  | nil => exact unwords_cons_eq_flatMap part back
  | cons first front ih =>
      rw [List.cons_append, unwords_cons (by simp), ih, List.flatMap_cons]
      simp

theorem mem_unwords {parts : List Text} {part : Text} (mem : part ∈ parts) {c : Char}
    (inPart : c ∈ part) : c ∈ Text.unwords parts := by
  induction parts with
  | nil => contradiction
  | cons first rest ih =>
      by_cases empty : rest = []
      · simp_all
      · rw [unwords_cons empty, List.mem_append, List.mem_cons]
        rcases List.mem_cons.mp mem with rfl | later
        · exact Or.inl inPart
        · exact Or.inr (Or.inr (ih later))

theorem mem_of_mem_unwords {parts : List Text} {c : Char} (mem : c ∈ Text.unwords parts) :
    c = ' ' ∨ ∃ part ∈ parts, c ∈ part := by
  cases parts with
  | nil => contradiction
  | cons first rest =>
      rw [unwords_cons_eq_flatMap, List.mem_append, List.mem_flatMap] at mem
      rcases mem with inFirst | ⟨part, inRest, inPart⟩
      · exact Or.inr ⟨first, List.mem_cons_self, inFirst⟩
      · rcases List.mem_cons.mp inPart with blank | inPart
        · exact Or.inl blank
        · exact Or.inr ⟨part, List.mem_cons_of_mem _ inRest, inPart⟩

theorem unwords_eq_nil_iff {parts : List Text} (nonempty : ∀ part ∈ parts, part ≠ []) :
    Text.unwords parts = [] ↔ parts = [] := by
  cases parts with
  | nil => simp
  | cons part rest =>
      have visible := nonempty part List.mem_cons_self
      simp [unwords_cons_eq_flatMap, visible]

theorem filter_unwords_eq_nil_iff {lines : List (List Text)}
    (nonempty : ∀ line ∈ lines, ∀ word ∈ line, word ≠ []) :
    (lines.map Text.unwords).filter (!·.isEmpty) = [] ↔ lines.flatten = [] := by
  have each : ∀ line ∈ lines, (Text.unwords line = [] ↔ line = []) := fun line mem =>
    unwords_eq_nil_iff (nonempty line mem)
  rw [List.filter_eq_nil_iff, List.flatten_eq_nil_iff, List.forall_mem_map]
  exact forall₂_congr fun line mem => by simpa using each line mem

/-- Parts that are lines themselves are taken word by word; the empty ones are left out. -/
theorem unwords_lines {lines : List (List Text)}
    (nonempty : ∀ line ∈ lines, ∀ word ∈ line, word ≠ []) (rest : List Text) :
    Text.unwords ((lines.map Text.unwords).filter (!·.isEmpty) ++ rest) =
      Text.unwords (lines.flatten ++ rest) := by
  induction lines with
  | nil => rfl
  | cons line lines ih =>
      obtain ⟨here, behind⟩ := List.forall_mem_cons.mp nonempty
      have later := ih behind
      have none := filter_unwords_eq_nil_iff behind
      rw [List.map_cons, List.flatten_cons]
      cases line with
      | nil => simpa using later
      | cons word line =>
          have visible : (!(Text.unwords (word :: line)).isEmpty) = true := by
            simp [unwords_eq_nil_iff here]
          rw [List.filter_cons, if_pos visible, List.cons_append, List.append_assoc]
          by_cases last : lines.flatten ++ rest = []
          · obtain ⟨flat, rfl⟩ := List.append_eq_nil_iff.mp last
            simp [none.mpr flat, flat]
          · have more : (lines.map Text.unwords).filter (!·.isEmpty) ++ rest ≠ [] := by
              rwa [ne_eq, List.append_eq_nil_iff, none, ← List.append_eq_nil_iff]
            rw [unwords_cons more, later, @unwords_append (word :: line) _ (by simp) last]

/-- Parts on one line are read back part by part, if none but the last is left open. -/
theorem words_unwords {parts : List Text} (closed : ClosedButLast parts) :
    words (Text.unwords parts) = parts.flatMap words := by
  induction parts with
  | nil => rfl
  | cons part parts ih =>
      by_cases empty : parts = []
      · simp [empty]
      · obtain ⟨partClosed, later⟩ := closedButLast_cons.mp closed
        rw [unwords_cons empty, words_append_separator (partClosed empty) rfl, ih later,
          List.flatMap_cons]

theorem run_unwords {parts : List Text} (closed : ClosedButLast parts) :
    ScanMode.plain.run (Text.unwords parts) = endMode parts := by
  induction parts with
  | nil => rfl
  | cons part parts ih =>
      by_cases empty : parts = []
      · simp [empty]
      · obtain ⟨partClosed, later⟩ := closedButLast_cons.mp closed
        have space : ScanMode.plain.step ' ' = .plain := rfl
        rw [unwords_cons empty, Closed.run_append (partClosed empty), ScanMode.run_cons, space,
          ih later]
        exact (endMode_append_of_ne_nil [part] empty).symm

theorem flatMap_words {parts : List Text} (isWord : ∀ part ∈ parts, IsWord part) :
    parts.flatMap words = parts := by
  induction parts with
  | nil => rfl
  | cons part parts ih =>
      rw [List.flatMap_cons, (isWord part List.mem_cons_self).words_eq,
        ih fun other mem => isWord other (List.mem_cons_of_mem _ mem)]
      rfl

theorem closed_unwords {parts : List Text} (closed : ∀ part ∈ parts, Closed part) :
    Closed (Text.unwords parts) :=
  (run_unwords (closedButLast_of_closed closed)).trans (endMode_of_closed closed)

/-!
### Both ends of a line
-/

theorem isSeparator_of_not_isBlank {c : Char} (visible : isBlank c = false) :
    isSeparator c = false :=
  Bool.eq_false_iff.mpr fun separator => by
    rw [isBlank_of_isSeparator separator] at visible
    contradiction

/-- The first word of a text that starts with no blank starts with none either. -/
theorem front_words {text : Text} (solid : Text.Solid text) :
    ∀ word ∈ (words text).head?, ∀ c ∈ word.head?, isBlank c = false := by
  cases text with
  | nil => simp
  | cons c rest =>
      have visible : isBlank c = false := solid.front c rfl
      have here : ¬(ScanMode.plain = .plain ∧ isSeparator c = true) := by
        simp [isSeparator_of_not_isBlank visible]
      rw [words, splitWords, if_neg here]
      simpa [consWord] using visible

theorem getLast?_words {text : Text} {c : Char} (last : text.getLast? = some c)
    (notSeparator : isSeparator c = false) :
    ∃ word, (words text).getLast? = some word ∧ word.getLast? = some c := by
  induction text using word_induction with
  | unbroken text whole =>
      refine ⟨text, ?_, last⟩
      rw [words_of_unbroken whole]
      cases text with
      | nil => simp at last
      | cons first rest => rfl
  | separated front d back whole closed separator ih =>
      cases back with
      | nil =>
          obtain rfl : d = c := by simpa using last
          rw [separator] at notSeparator
          contradiction
      | cons first rest =>
          obtain ⟨word, lastWord, lastChar⟩ := ih (by simpa using last)
          refine ⟨word, ?_, lastChar⟩
          rw [words_append_separator closed separator, List.getLast?_append, lastWord]
          rfl

/-- The last word of a text that ends with no blank ends with none either. -/
theorem back_words {text : Text} (solid : Text.Solid text) :
    ∀ word ∈ (words text).getLast?, ∀ c ∈ word.getLast?, isBlank c = false := by
  intro word mem c lastChar
  cases last : text.getLast? with
  | none =>
      rw [List.getLast?_eq_none_iff.mp last] at mem
      simp at mem
  | some d =>
      have visible := solid.back d last
      obtain ⟨found, lastWord, lastOfWord⟩ :=
        getLast?_words last (isSeparator_of_not_isBlank visible)
      obtain rfl : found = word := Option.some.inj (lastWord.symm.trans mem)
      obtain rfl : d = c := Option.some.inj (lastOfWord.symm.trans lastChar)
      exact visible

theorem head?_unwords {part : Text} (nonempty : part ≠ []) (parts : List Text) :
    (Text.unwords (part :: parts)).head? = part.head? := by
  cases parts with
  | nil => rfl
  | cons next rest =>
      rw [unwords_cons (by simp), List.head?_append_of_ne_nil _ nonempty]

theorem getLast?_unwords {part : Text} (nonempty : part ≠ []) (parts : List Text) :
    (Text.unwords (parts ++ [part])).getLast? = part.getLast? := by
  cases parts with
  | nil => rfl
  | cons first rest =>
      rw [unwords_append (by simp) (by simp), List.getLast?_append_of_ne_nil _ (by simp),
        unwords_singleton, List.getLast?_cons, List.getLast?_eq_some_getLast nonempty]
      rfl

/-- A line is solid where its first part starts and its last part ends with no blank. -/
theorem solid_unwords {parts : List Text} (nonempty : ∀ part ∈ parts, part ≠ [])
    (front : ∀ part ∈ parts.head?, ∀ c ∈ part.head?, isBlank c = false)
    (back : ∀ part ∈ parts.getLast?, ∀ c ∈ part.getLast?, isBlank c = false) :
    Text.Solid (Text.unwords parts) where
  front := by
    cases parts with
    | nil => simp
    | cons first rest =>
        rw [head?_unwords (nonempty first List.mem_cons_self)]
        exact front first rfl
  back := by
    rcases List.eq_nil_or_concat parts with rfl | ⟨front, last, rfl⟩
    · simp
    · rw [List.concat_eq_append] at nonempty back ⊢
      rw [getLast?_unwords (nonempty last (by simp))]
      exact back last (by simp)

/-- Trimming behind a solid line that is closed takes off none of its words. -/
theorem words_trim_append {front : Text} (solid : Text.Solid front) (nonempty : front ≠ [])
    (closed : Closed front) {back : Text} (apart : ∀ c ∈ back.head?, isSeparator c = true) :
    ∃ rest, words (Text.trim (front ++ back)) = words front ++ rest := by
  rw [Text.trim_append_of_solid solid nonempty]
  cases eq : Text.trimEnd back with
  | nil => exact ⟨[], by simp⟩
  | cons c rest =>
      obtain ⟨cut, whole⟩ := List.rdropWhile_prefix SafeDelete.isBlank back
      rw [show List.rdropWhile SafeDelete.isBlank back = c :: rest from eq] at whole
      have separator : isSeparator c = true := apart c (by rw [← whole]; rfl)
      exact ⟨words rest, words_append_separator closed separator rest⟩

end SafeDelete.Shell
