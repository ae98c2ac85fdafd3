/-
Module: SafeDelete.Proofs.Files.Reach
Purpose: The directory that a written path leads to and the name it has there, and which changes of
  the tree leave both as they are.
Main exports: FileSystem.Reaches, FileSystem.resolve_eq_ok_iff, FileSystem.lstat_eq_ok_iff,
  FileSystem.isTaken_iff, FileSystem.Reaches.mono, FileSystem.Reaches.unique
-/
import SafeDelete.Proofs.Files.Lookup

namespace SafeDelete

open FileSystem

namespace PathName

/-- The path ends in a name that an entry can have. -/
structure IsNamed (path : PathName) : Prop where
  proper : path.Proper
  named : IsName path.name

theorem IsNamed.exists_parts {path : PathName} (named : path.IsNamed) :
    ∃ front, path.parts = front ++ [path.name] := by
  rcases List.eq_nil_or_concat path.parts with empty | ⟨front, last, eq⟩
  · exact absurd (by simp [name, empty]) named.named.nonempty
  · exact ⟨front, by simp [name, eq]⟩

theorem isNamed_append {root : PathRoot} {parts : List Text} {name : Text}
    (proper : (⟨root, parts⟩ : PathName).Proper) (named : IsName name) :
    (⟨root, parts ++ [name]⟩ : PathName).IsNamed := by
  refine ⟨fun part mem => ?_, by simpa using named⟩
  rcases List.mem_append.mp mem with front | last
  · exact proper part front
  · obtain rfl := List.mem_singleton.mp last
    exact ⟨named.nonempty, named.ne_itself, named.noSlash⟩

theorem IsNamed.below {path : PathName} (proper : path.Proper) {name : Text} (named : IsName name) :
    (path.below name).IsNamed := by
  rw [below_of_isName path named]
  exact isNamed_append proper named

end PathName

namespace FileSystem

variable {files later : FileSystem} {ending : Ending} {path : PathName} {directory place : Place}
  {name : Text} {target : Target} {entry : Entry}

/-- Where paths with the given start begin. -/
def base (files : FileSystem) (root : PathRoot) : Place :=
  if root = .relative then files.workingDirectory else []

theorem IsStation.base (wellformed : files.Wellformed) (root : PathRoot) :
    files.IsStation (files.base root) := by
  unfold FileSystem.base
  split
  · exact wellformed.working
  · exact .root files

/-- A path leads to a directory in which its last name can be looked up. -/
structure Reaches (files : FileSystem) (path : PathName) (directory : Place) (name : Text) :
    Prop where
  short : (Utf8.encode path.toText).length < pathLimit
  walks : ∃ front, path.parts = front ++ [name] ∧
    ∃ links ≤ linkLimit, Walks files (files.base path.root) front links directory
  admits : Admits .kept directory name []

theorem Reaches.name_eq (reaches : files.Reaches path directory name) : name = path.name := by
  obtain ⟨front, eq, -⟩ := reaches.walks
  simp [PathName.name, eq]

theorem Reaches.unique {other : Place} {last : Text} (reaches : files.Reaches path directory name)
    (reaches' : files.Reaches path other last) : directory = other ∧ name = last := by
  obtain ⟨front, eq, links, _, walks⟩ := reaches.walks
  obtain ⟨front', eq', links', _, walks'⟩ := reaches'.walks
  obtain ⟨rfl, same⟩ := List.append_inj' (eq.symm.trans eq') rfl
  exact ⟨(walks.unique walks').2, by simpa using same⟩

theorem Reaches.mono (reaches : files.Reaches path directory name)
    (continues : Continues files later) (stands : later.workingDirectory = files.workingDirectory) :
    later.Reaches path directory name := by
  obtain ⟨front, eq, links, few, walks⟩ := reaches.walks
  refine ⟨reaches.short, ⟨front, eq, links, few, ?_⟩, reaches.admits⟩
  have same : later.base path.root = files.base path.root := by rw [base, base, stands]
  exact same ▸ walks.mono continues

theorem Reaches.hasDirectory (reaches : files.Reaches path directory name)
    (wellformed : files.Wellformed) : files.HasDirectory directory := by
  obtain ⟨_, _, _, _, walks⟩ := reaches.walks
  exact (walks.isStation wellformed (.base wellformed _)).hasDirectory reaches.admits.stands

theorem Reaches.isName (reaches : files.Reaches path directory name) (proper : path.Proper) :
    IsName name := by
  obtain ⟨front, eq, _⟩ := reaches.walks
  have noSlash := (proper name (by simp [eq])).2.2
  exact ⟨reaches.admits.nonempty, reaches.admits.ne_itself, reaches.admits.ne_above, noSlash⟩

/-! ## Lookups of written paths -/

theorem resolve_text_eq_ok_iff {text : Text} :
    files.resolve ending text = .ok target ↔
      text ≠ [] ∧ (Utf8.encode text).length < pathLimit ∧
        ∃ used ≤ linkLimit,
          Leads files ending (start files.workingDirectory text) (names text) used target := by
  rw [resolve]
  by_cases empty : text.isEmpty = true
  · rw [if_pos empty]
    simp [List.isEmpty_iff.mp empty]
  · rw [if_neg empty]
    by_cases long : pathLimit ≤ (Utf8.encode text).length
    · rw [if_pos long]
      simp [Nat.not_lt.mpr long]
    · rw [if_neg long, follow_eq_ok_iff]
      simp [Nat.lt_of_not_le long, List.isEmpty_iff.not.mp empty]

/-- The names of a written path, and the path itself, lead alike. -/
theorem leads_toText_iff {used : Nat} (proper : path.Proper) :
    Leads files ending (start files.workingDirectory path.toText) (names path.toText) used target ↔
      Leads files ending (files.base path.root) path.parts used target := by
  by_cases some : path.root ≠ .relative ∨ path.parts ≠ []
  · rw [PathName.names_toText proper some, PathName.start_toText proper, ← base]
  · -- The path is a single dot, which says no more than no name at all.
    obtain ⟨root, parts⟩ := path
    obtain ⟨rfl, rfl⟩ : root = .relative ∧ parts = [] := by simpa using some
    constructor
    · intro leads
      cases leads with
      | stay _ onward => exact onward
      | absent admits => exact absurd rfl admits.ne_itself
      | last admits => exact absurd rfl admits.ne_itself
      | enter _ more => exact absurd rfl more
      | link admits => exact absurd rfl admits.ne_itself
    · exact fun leads => .stay (.inr rfl) leads

theorem resolve_toText_eq_ok_iff (proper : path.Proper) :
    files.resolve ending path.toText = .ok target ↔
      (Utf8.encode path.toText).length < pathLimit ∧
        ∃ used ≤ linkLimit, Leads files ending (files.base path.root) path.parts used target := by
  simp only [resolve_text_eq_ok_iff, leads_toText_iff proper, ne_eq,
    PathName.toText_ne_nil path proper, not_false_eq_true, true_and]

/-- A path that ends in a name leads to its directory, and to what the name stands for there. -/
theorem resolve_eq_ok_iff (named : path.IsNamed) :
    files.resolve .kept path.toText = .ok target ↔
      ∃ directory name, files.Reaches path directory name ∧
        target = files.targetAt directory name := by
  obtain ⟨front, eq⟩ := named.exists_parts
  have step : ∀ {here used target}, Leads files .kept here [path.name] used target ↔
      used = 0 ∧ Admits .kept here path.name [] ∧ target = files.targetAt here path.name :=
    leads_name_iff named.named.nonempty named.named.ne_itself named.named.ne_above
  rw [resolve_toText_eq_ok_iff named.proper]
  constructor
  · rintro ⟨short, used, few, leads⟩
    rw [eq, leads_concat_iff (by simp)] at leads
    obtain ⟨links, second, directory, rfl, walks, last⟩ := leads
    obtain ⟨rfl, admits, rfl⟩ := step.mp last
    exact ⟨directory, path.name, ⟨short, ⟨front, eq, links, few, walks⟩, admits⟩, rfl⟩
  · rintro ⟨directory, name, reaches, rfl⟩
    obtain rfl := reaches.name_eq
    obtain ⟨front', eq', links, few, walks⟩ := reaches.walks
    refine ⟨reaches.short, links, few, ?_⟩
    rw [eq', leads_concat_iff (by simp)]
    exact ⟨links, 0, directory, rfl, walks, step.mpr ⟨rfl, reaches.admits, rfl⟩⟩

theorem resolve_of_reaches (named : path.IsNamed) (reaches : files.Reaches path directory name) :
    files.resolve .kept path.toText = .ok (files.targetAt directory name) :=
  (resolve_eq_ok_iff named).mpr ⟨directory, name, reaches, rfl⟩

theorem targetAt_of_absent (free : files.get? (directory ++ [name]) = none) :
    files.targetAt directory name = .absent directory name := by
  rw [targetAt, free]

theorem targetAt_of_present (found : files.get? (directory ++ [name]) = some entry) :
    files.targetAt directory name = .present (directory ++ [name]) entry := by
  rw [targetAt, found]

theorem targetAt_eq_absent_iff {other : Place} {last : Text} :
    files.targetAt directory name = .absent other last ↔
      directory = other ∧ name = last ∧ files.get? (directory ++ [name]) = none := by
  cases found : files.get? (directory ++ [name]) with
  | none => simp [targetAt_of_absent found]
  | some entry => simp [targetAt_of_present found]

theorem targetAt_eq_present_iff :
    files.targetAt directory name = .present place entry ↔
      place = directory ++ [name] ∧ files.get? place = some entry := by
  cases found : files.get? (directory ++ [name]) with
  | none =>
      rw [targetAt_of_absent found]
      simp +contextual [found]
  | some other =>
      rw [targetAt_of_present found, Target.present.injEq, eq_comm]
      refine and_congr_right fun same => ?_
      rw [same, found, Option.some.injEq]

/-- Only a path that ends in a name leads to a free one. -/
theorem reaches_of_absent (proper : path.Proper)
    (found : files.resolve .kept path.toText = .ok (.absent directory name)) :
    files.Reaches path directory name ∧ files.get? (directory ++ [name]) = none := by
  obtain ⟨short, used, few, leads⟩ := (resolve_toText_eq_ok_iff proper).mp found
  rcases List.eq_nil_or_concat path.parts with empty | ⟨front, last, parts⟩
  · rw [empty] at leads
    cases leads
  rw [List.concat_eq_append] at parts
  rw [parts, leads_concat_iff (by simp)] at leads
  obtain ⟨links, second, middle, rfl, walks, leads⟩ := leads
  obtain ⟨nonempty, ne_itself, -⟩ := proper last (by simp [parts])
  have down : last ≠ above := by
    rintro rfl
    cases leads with
    | stay empty => exact absurd empty (by decide)
    | up onward => cases onward
    | absent admits => exact admits.ne_above rfl
    | enter _ more => exact more rfl
    | link _ followed => exact followed rfl rfl
  obtain ⟨rfl, admits, same⟩ := (leads_name_iff nonempty ne_itself down).mp leads
  obtain ⟨rfl, rfl, free⟩ := targetAt_eq_absent_iff.mp same.symm
  exact ⟨⟨short, ⟨front, parts, links, few, walks⟩, admits⟩, free⟩

theorem lstat_text_eq_ok_iff {text : Text} :
    files.lstat text = .ok (place, entry) ↔
      files.resolve .kept text = .ok (.present place entry) := by
  unfold lstat find
  split <;> simp_all

theorem lstat_eq_ok_iff (named : path.IsNamed) :
    files.lstat path.toText = .ok (place, entry) ↔
      ∃ directory name, files.Reaches path directory name ∧ place = directory ++ [name] ∧
        files.get? place = some entry := by
  rw [lstat_text_eq_ok_iff, resolve_eq_ok_iff named]
  simp only [eq_comm, targetAt_eq_present_iff]

theorem isTaken_iff (named : path.IsNamed) :
    files.isTaken path.toText = true ↔
      ∃ directory name, files.Reaches path directory name ∧
        files.get? (directory ++ [name]) ≠ none := by
  constructor
  · intro taken
    cases found : files.lstat path.toText with
    | error errno => simp [isTaken, found, Except.isOk, Except.toBool] at taken
    | ok there =>
        obtain ⟨place, entry⟩ := there
        obtain ⟨directory, name, reaches, rfl, present⟩ := (lstat_eq_ok_iff named).mp found
        exact ⟨directory, name, reaches, by simp [present]⟩
  · rintro ⟨directory, name, reaches, present⟩
    obtain ⟨entry, found⟩ := Option.ne_none_iff_exists'.mp present
    have there := (lstat_eq_ok_iff named).mpr ⟨directory, name, reaches, rfl, found⟩
    simp [isTaken, there, Except.isOk, Except.toBool]

end FileSystem

end SafeDelete
