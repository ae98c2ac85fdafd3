/-
Module: SafeDelete.Proofs.Files.Growth
Purpose: Making directories adds directories on the way to a path, and changes nothing else.
Main exports: FileSystem.Extends, FileSystem.create_eq_ok, FileSystem.Grows,
  Effect.grows_makeDirectories
-/
import SafeDelete.Files.Effect
import SafeDelete.Proofs.Files.Reach

namespace SafeDelete

open FileSystem

namespace FileSystem

variable {files later last : FileSystem} {path : PathName} {directory place : Place}
  {name : Text} {entry : Entry}

/-- Every entry of the files is in the later ones too, as it was. -/
def Extends (files later : FileSystem) : Prop :=
  ∀ place entry, files.get? place = some entry → later.get? place = some entry

theorem Extends.refl (files : FileSystem) : Extends files files :=
  fun _ _ found => found

theorem Extends.trans (first : Extends files later) (second : Extends later last) :
    Extends files last :=
  fun place entry found => second place entry (first place entry found)

theorem Extends.continues (extends' : Extends files later) : Continues files later where
  directory := fun place there => there.imp fun _ => extends' place _
  link := fun place _ found => extends' place _ found

theorem Extends.insert (proper : place ≠ []) (free : files.get? place = none) (entry : Entry) :
    Extends files (files.insert place entry) := by
  intro other old found
  rw [get?_insert files proper, if_neg, found]
  rintro rfl
  simp [free] at found

/-- An entry is put at a free name, in a directory that is there. -/
theorem create_eq_ok (proper : path.Proper) (created : files.create path.toText entry = .ok later) :
    ∃ directory name, files.Reaches path directory name ∧
      files.get? (directory ++ [name]) = none ∧
      later = files.insert (directory ++ [name]) entry := by
  unfold create at created
  split at created
  · contradiction
  · contradiction
  · rename_i directory name found
    obtain ⟨reaches, free⟩ := reaches_of_absent proper found
    exact ⟨directory, name, reaches, free, (Except.ok.inj created).symm⟩

/-- Some first parts of the path lead to the place. -/
def IsOnWay (files : FileSystem) (path : PathName) (place : Place) : Prop :=
  ∃ front directory name, front <+: path.parts ∧
    files.Reaches ⟨path.root, front⟩ directory name ∧ place = directory ++ [name]

theorem IsOnWay.mono (onWay : files.IsOnWay path place) (continues : Continues files later)
    (stands : later.workingDirectory = files.workingDirectory) : later.IsOnWay path place := by
  obtain ⟨front, directory, name, short, reaches, eq⟩ := onWay
  exact ⟨front, directory, name, short, reaches.mono continues stands, eq⟩

/-- The later files have directories besides, on the way to the given paths, and are otherwise the
same. -/
structure Grows (files later : FileSystem) (paths : List PathName) : Prop where
  kept : Extends files later
  fresh : ∀ place entry, files.get? place = none → later.get? place = some entry →
    entry.isDirectory = true ∧ ∃ path ∈ paths, later.IsOnWay path place
  stands : later.workingDirectory = files.workingDirectory
  wellformed : files.Wellformed → later.Wellformed

theorem Grows.refl (files : FileSystem) (paths : List PathName) : Grows files files paths where
  kept := .refl files
  fresh := fun place entry free found => by simp [free] at found
  stands := rfl
  wellformed := id

/-- Files that are looked up alike. -/
theorem Grows.of_same {paths : List PathName} (same : ∀ place, later.get? place = files.get? place)
    (stands : later.workingDirectory = files.workingDirectory) : Grows files later paths where
  kept := fun place entry found => (same place).trans found
  fresh := fun place entry free found => by simp [same, free] at found
  stands := stands
  wellformed := fun wellformed => wellformed.congr same stands

theorem Grows.trans {paths morePaths : List PathName} (first : Grows files later paths)
    (second : Grows later last morePaths) : Grows files last (paths ++ morePaths) where
  kept := first.kept.trans second.kept
  fresh := by
    intro place entry free found
    cases before : later.get? place with
    | none =>
        obtain ⟨directory, path, mem, onWay⟩ := second.fresh place entry before found
        exact ⟨directory, path, List.mem_append_right _ mem, onWay⟩
    | some old =>
        obtain ⟨directory, path, mem, onWay⟩ := first.fresh place old free before
        obtain rfl : old = entry :=
          Option.some.inj ((second.kept place old before).symm.trans found)
        exact ⟨directory, path, List.mem_append_left _ mem,
          onWay.mono second.kept.continues second.stands⟩
  stands := second.stands.trans first.stands
  wellformed := fun wellformed => second.wellformed (first.wellformed wellformed)

theorem Grows.present {paths : List PathName} (grows : Grows files later paths)
    (there : files.get? place ≠ none) : later.get? place ≠ none := by
  obtain ⟨entry, found⟩ := Option.ne_none_iff_exists'.mp there
  simp [grows.kept place entry found]

theorem Grows.mono {paths morePaths : List PathName} (grows : Grows files later paths)
    (among : ∀ path ∈ paths, ∀ place, later.IsOnWay path place →
      ∃ other ∈ morePaths, later.IsOnWay other place) :
    Grows files later morePaths where
  kept := grows.kept
  fresh := by
    intro place entry free found
    obtain ⟨directory, path, mem, onWay⟩ := grows.fresh place entry free found
    exact ⟨directory, among path mem place onWay⟩
  stands := grows.stands
  wellformed := grows.wellformed

theorem Grows.trans_same {paths : List PathName} (first : Grows files later paths)
    (second : Grows later last paths) : Grows files last paths :=
  (first.trans second).mono fun path mem _ onWay => ⟨path, by simpa using mem, onWay⟩

/-- Making one directory at a path adds it. -/
theorem grows_insert (proper : path.Proper) (reaches : files.Reaches path directory name)
    (free : files.get? (directory ++ [name]) = none) (mode : Nat) :
    Grows files (files.insert (directory ++ [name]) (.directory mode)) [path] where
  kept := .insert (by simp) free _
  fresh := by
    intro place entry unused found
    rw [get?_insert files (by simp)] at found
    split at found
    · rename_i here
      obtain rfl := Option.some.inj found
      refine ⟨rfl, path, by simp, path.parts, directory, name, List.prefix_rfl, ?_, here⟩
      exact reaches.mono (Extends.insert (by simp) free _).continues rfl
    · simp [unused] at found
  stands := rfl
  wellformed := fun wellformed => wellformed.insert (reaches.hasDirectory wellformed)
    (reaches.isName proper) fun _ => rfl

end FileSystem

namespace Effect

/-- The files that a program leaves, whether it ends well or not. -/
def after {ε α : Type} : EStateM.Result ε FileSystem α → FileSystem
  | .ok _ files => files
  | .error _ files => files

theorem after_settleDirectory (path : Text) (refusal : Errno) (files : FileSystem) :
    after (settleDirectory path refusal files) = files := by
  unfold settleDirectory
  split <;> rfl

theorem grows_mkdir {files later : FileSystem} {path : PathName} {mode : Nat} (proper : path.Proper)
    (made : files.mkdir path.toText mode = .ok later) : Grows files later [path] := by
  obtain ⟨directory, name, reaches, free, rfl⟩ := create_eq_ok proper made
  exact grows_insert proper reaches free _

theorem grows_makeDirectory {path : PathName} (proper : path.Proper) (mode : Nat)
    (files : FileSystem) : Grows files (after (makeDirectory path.toText mode files)) [path] := by
  unfold makeDirectory
  split
  · rename_i later made
    exact grows_mkdir proper made
  · exact .refl files _
  · rw [after_settleDirectory]
    exact .refl files _

theorem isOnWay_of_front {files : FileSystem} {root : PathRoot} {parts more : List Text}
    {place : Place} (short : parts <+: more) (onWay : files.IsOnWay ⟨root, parts⟩ place) :
    files.IsOnWay ⟨root, more⟩ place := by
  obtain ⟨front, directory, name, shorter, reaches, eq⟩ := onWay
  exact ⟨front, directory, name, shorter.trans short, reaches, eq⟩

theorem grows_makeDirectoriesFrom (root : PathRoot) (mode : Nat) (parts : List Text)
    (proper : (⟨root, parts.reverse⟩ : PathName).Proper) (files : FileSystem) :
    Grows files (after (makeDirectoriesFrom root mode parts files)) [⟨root, parts.reverse⟩] := by
  induction parts generalizing mode files with
  | nil => exact grows_makeDirectory proper mode files
  | cons part before ih =>
      have properBefore : (⟨root, before.reverse⟩ : PathName).Proper := fun name mem =>
        proper name (by simp [List.mem_reverse.mp mem])
      rw [makeDirectoriesFrom]
      dsimp only
      split
      · rename_i later made
        exact grows_mkdir proper made
      · -- The directory above is made first, and then this one is tried again.
        have onTheWay : ∀ {later : FileSystem}, Grows files later [⟨root, before.reverse⟩] →
            Grows files later [⟨root, (part :: before).reverse⟩] := fun grows =>
          grows.mono fun path mem place onWay => by
            obtain rfl := List.mem_singleton.mp mem
            exact ⟨_, List.mem_singleton_self _, isOnWay_of_front (by simp) onWay⟩
        have grown := ih wayMode properBefore files
        split
        · rename_i later made
          rw [made] at grown
          exact (onTheWay grown).trans_same (grows_makeDirectory proper mode later)
        · rename_i later refused
          rw [refused] at grown
          exact onTheWay grown
      · rw [after_settleDirectory]
        exact .refl files _

/-- Whatever comes of it, making a directory adds directories on the way to it and nothing else. -/
theorem grows_makeDirectories {path : PathName} (proper : path.Proper) (mode : Nat)
    (files : FileSystem) : Grows files (after (makeDirectories path mode files)) [path] := by
  have grows := grows_makeDirectoriesFrom path.root mode path.parts.reverse
    (by simpa using proper) files
  rwa [List.reverse_reverse] at grows

end Effect

end SafeDelete
