/-
Module: SafeDelete.Proofs.Files.Regular
Purpose: What the operations do at a path where a regular file is, or nothing.
Main exports: FileSystem.IsRegular, FileSystem.contentAt, FileSystem.Spot, FileSystem.Spot.append,
  FileSystem.Spot.rename, FileSystem.Differs, FileSystem.Differs.spot, FileSystem.LeadsToRegular
-/
import SafeDelete.Files.Operations
import SafeDelete.Proofs.Files.Directories

namespace SafeDelete.FileSystem

variable {files later : FileSystem} {ending : Ending} {path other : PathName}
  {place directory : Place} {name last : Text}

/-- Nothing but a regular file is at the place. -/
def IsRegular (files : FileSystem) (place : Place) : Prop :=
  ∀ entry, files.get? place = some entry → ∃ mode content, entry = .file mode content

/-- What the file at a place holds; nothing without one. -/
def contentAt (files : FileSystem) (place : Place) : Bytes :=
  match files.get? place with
  | some (.file _ content) => content
  | _ => []

theorem contentAt_of_file {mode : Nat} {content : Bytes}
    (found : files.get? place = some (.file mode content)) : files.contentAt place = content := by
  rw [contentAt, found]

theorem contentAt_congr {other : Place} (same : later.get? other = files.get? place) :
    later.contentAt other = files.contentAt place := by
  rw [contentAt, contentAt, same]

theorem contentAt_of_absent (free : files.get? place = none) : files.contentAt place = [] := by
  rw [contentAt, free]

theorem IsRegular.absent_or_file (regular : files.IsRegular place) :
    files.get? place = none ∨
      ∃ mode, files.get? place = some (.file mode (files.contentAt place)) := by
  cases found : files.get? place with
  | none => exact .inl rfl
  | some entry =>
      obtain ⟨mode, content, rfl⟩ := regular entry found
      exact .inr ⟨mode, by rw [contentAt_of_file found]⟩

theorem IsRegular.not_hasDirectory (regular : files.IsRegular place) :
    ¬files.HasDirectory place := by
  rintro ⟨mode, found⟩
  obtain ⟨_, _, same⟩ := regular _ found
  cases same

theorem concat_not_isPrefix_self (directory : Place) (name : Text) :
    ¬directory ++ [name] <+: directory := by
  intro below
  have long := below.length_le
  rw [List.length_append, List.length_singleton] at long
  omega

/-- The path leads to a name in a directory, where a regular file is or nothing. -/
structure Spot (files : FileSystem) (path : PathName) (directory : Place) (name : Text) :
    Prop where
  named : path.IsNamed
  reaches : files.Reaches path directory name
  regular : files.IsRegular (directory ++ [name])

namespace Spot

variable (spot : files.Spot path directory name)

include spot

theorem isName : IsName name :=
  spot.reaches.isName spot.named.proper

/-- There is no link to follow at the end of the path. -/
theorem resolve (ending : Ending) :
    files.resolve ending path.toText = .ok (files.targetAt directory name) := by
  obtain ⟨front, parts, used, few, walks⟩ := spot.reaches.walks
  have admits : Admits ending directory name [] :=
    { spot.reaches.admits with writable := fun slash => absurd slash.2 (by decide) }
  rw [resolve_toText_eq_ok_iff spot.named.proper]
  refine ⟨spot.reaches.short, used, few, ?_⟩
  rw [parts, leads_concat_iff fun _ => spot.isName.nonempty]
  refine ⟨used, 0, directory, rfl, walks, ?_⟩
  rcases spot.regular.absent_or_file with free | ⟨mode, found⟩
  · rw [targetAt_of_absent free]
    exact .absent admits free
  · rw [targetAt_of_present found]
    exact .last admits found fun _ same => by cases same

theorem find_of_absent (free : files.get? (directory ++ [name]) = none) (ending : Ending) :
    files.find ending path.toText = .error .noEntry := by
  rw [FileSystem.find, spot.resolve, targetAt_of_absent free]

theorem find_of_present {entry : Entry} (found : files.get? (directory ++ [name]) = some entry)
    (ending : Ending) : files.find ending path.toText = .ok (directory ++ [name], entry) := by
  rw [FileSystem.find, spot.resolve, targetAt_of_present found]

theorem toOption_read :
    ((files.read path.toText).toOption).getD [] = files.contentAt (directory ++ [name]) := by
  rcases spot.regular.absent_or_file with free | ⟨mode, found⟩
  · rw [FileSystem.read, stat, spot.find_of_absent free, contentAt_of_absent free]
    rfl
  · rw [FileSystem.read, stat, spot.find_of_present found]
    rfl

theorem exists? : files.exists? path.toText = .ok (files.get? (directory ++ [name])).isSome := by
  rcases spot.regular.absent_or_file with free | ⟨mode, found⟩
  · rw [FileSystem.exists?, leadsTo?, stat, spot.find_of_absent free, free]
    rfl
  · rw [FileSystem.exists?, leadsTo?, stat, spot.find_of_present found, found]
    rfl

theorem unlink (there : (files.get? (directory ++ [name])).isSome = true) :
    files.unlink path.toText = .ok (files.erase (directory ++ [name])) := by
  rcases spot.regular.absent_or_file with free | ⟨mode, found⟩
  · rw [free] at there
    contradiction
  · rw [FileSystem.unlink, lstat, spot.find_of_present found]

/-- What is appended stands behind what was there. -/
theorem append (record : Bytes) :
    ∃ mode, files.append path.toText record = .ok (files.insert (directory ++ [name])
      (.file mode (files.contentAt (directory ++ [name]) ++ record))) := by
  rcases spot.regular.absent_or_file with free | ⟨mode, found⟩
  · refine ⟨newFileMode, ?_⟩
    rw [FileSystem.append, changeFile, spot.resolve, targetAt_of_absent free,
      contentAt_of_absent free]
  · refine ⟨mode, ?_⟩
    rw [FileSystem.append, changeFile, spot.resolve, targetAt_of_present found]

/-- A regular file goes to a free name. -/
theorem rename (spot' : files.Spot other directory last)
    (there : files.get? (directory ++ [name]) ≠ none)
    (free : files.get? (directory ++ [last]) = none) :
    files.rename path.toText other.toText =
      .ok (files.relocate (directory ++ [name]) (directory ++ [last])) := by
  obtain ⟨mode, found⟩ := spot.regular.absent_or_file.resolve_left there
  have outside : (directory ++ [name]).isPrefixOf directory = false :=
    isPrefixOf_eq_false_iff.mpr (concat_not_isPrefix_self directory name)
  have proper : directory ++ [name] ≠ [] := by simp
  have here := spot.find_of_present found .kept
  generalize directory ++ [name] = place at *
  cases place with
  | nil => exact absurd rfl proper
  | cons first rest =>
      simp only [FileSystem.rename, lstat, here, spot'.resolve, targetAt_of_absent free, outside,
        Bool.false_eq_true, if_false]

end Spot

/-- The path leads to a regular file, or to a free name. -/
def LeadsToRegular (files : FileSystem) (path : PathName) : Prop :=
  ∃ target, files.resolve .kept path.toText = .ok target ∧
    ∀ place entry, target = .present place entry → ∃ mode content, entry = .file mode content

theorem LeadsToRegular.exists_spot (leads : files.LeadsToRegular path) (named : path.IsNamed) :
    ∃ directory, files.Spot path directory path.name := by
  obtain ⟨target, found, regular⟩ := leads
  obtain ⟨directory, name, reaches, rfl⟩ := (resolve_eq_ok_iff named).mp found
  obtain rfl := reaches.name_eq
  exact ⟨directory, named, reaches, fun entry there => regular _ entry (targetAt_of_present there)⟩

/-! ## Changes at such places alone -/

/-- The later files differ only at some places, where regular files are or nothing, before and
after. -/
structure Differs (files later : FileSystem) (places : List Place) : Prop where
  same : ∀ place ∉ places, later.get? place = files.get? place
  regular : ∀ place ∈ places, files.IsRegular place
  stays : ∀ place ∈ places, later.IsRegular place
  stands : later.workingDirectory = files.workingDirectory
  wellformed : files.Wellformed → later.Wellformed

namespace Differs

variable {last : FileSystem} {places more : List Place}

theorem refl (regular : ∀ place ∈ places, files.IsRegular place) : Differs files files places where
  same := fun _ _ => rfl
  regular := regular
  stays := regular
  stands := rfl
  wellformed := id

theorem trans (first : Differs files later places) (second : Differs later last places) :
    Differs files last places where
  same := fun place apart => (second.same place apart).trans (first.same place apart)
  regular := first.regular
  stays := second.stays
  stands := second.stands.trans first.stands
  wellformed := fun wellformed => second.wellformed (first.wellformed wellformed)

theorem mono (differs : Differs files later places) (among : places ⊆ more)
    (regular : ∀ place ∈ more, files.IsRegular place) : Differs files later more where
  same := fun place apart => differs.same place fun mem => apart (among mem)
  regular := regular
  stays := by
    intro place mem entry found
    by_cases changed : place ∈ places
    · exact differs.stays place changed entry found
    · exact regular place mem entry ((differs.same place changed).symm.trans found)
  stands := differs.stands
  wellformed := differs.wellformed

theorem continues (differs : Differs files later places) : Continues files later where
  directory := by
    intro place there
    have apart : place ∉ places := fun mem => (differs.regular place mem).not_hasDirectory there
    exact (hasDirectory_congr (differs.same place apart)).mpr there
  link := by
    intro place text found
    by_cases mem : place ∈ places
    · obtain ⟨_, _, same⟩ := differs.regular place mem _ found
      cases same
    · exact (differs.same place mem).trans found

theorem isDirectory {text : Text} (differs : Differs files later places)
    (wellformed : files.Wellformed) (leads : files.isDirectory text = true) :
    later.isDirectory text = true :=
  isDirectory_mono wellformed (differs.wellformed wellformed) differs.continues differs.stands leads

theorem spot (differs : Differs files later places) (spot : files.Spot path directory name)
    (mem : directory ++ [name] ∈ places) : later.Spot path directory name where
  named := spot.named
  reaches := spot.reaches.mono differs.continues differs.stands
  regular := differs.stays _ mem

end Differs

namespace Spot

theorem hasDirectory (spot : files.Spot path directory name) (wellformed : files.Wellformed) :
    files.HasDirectory directory :=
  spot.reaches.hasDirectory wellformed

theorem differs_insert (spot : files.Spot path directory name) (mode : Nat) (content : Bytes) :
    Differs files (files.insert (directory ++ [name]) (.file mode content))
      [directory ++ [name]] where
  same := by
    intro place apart
    rw [get?_insert files (by simp)]
    exact if_neg fun here => apart (List.mem_singleton.mpr here)
  regular := fun place mem => List.mem_singleton.mp mem ▸ spot.regular
  stays := by
    intro place mem entry found
    rw [get?_insert files (by simp), if_pos (List.mem_singleton.mp mem)] at found
    exact ⟨mode, content, (Option.some.inj found).symm⟩
  stands := rfl
  wellformed := fun wellformed => wellformed.insert (spot.hasDirectory wellformed) spot.isName
    fun there => absurd there spot.regular.not_hasDirectory

theorem differs_erase (spot : files.Spot path directory name) :
    Differs files (files.erase (directory ++ [name])) [directory ++ [name]] where
  same := by
    intro place apart
    rw [get?_erase files (by simp)]
    exact if_neg fun here => apart (List.mem_singleton.mpr here)
  regular := fun place mem => List.mem_singleton.mp mem ▸ spot.regular
  stays := by
    intro place mem entry found
    rw [get?_erase files (by simp), if_pos (List.mem_singleton.mp mem)] at found
    contradiction
  stands := rfl
  wellformed := fun wellformed => wellformed.erase (by simp) spot.regular.not_hasDirectory

/-- Nothing is below a regular file. -/
theorem absent_below (spot : files.Spot path directory name) (wellformed : files.Wellformed)
    (below : directory ++ [name] <+: place) (other : place ≠ directory ++ [name]) :
    files.get? place = none :=
  wellformed.absent_below spot.regular.not_hasDirectory below (Ne.symm other)

/-- No process works in a regular file. -/
theorem workingDirectory_outside (spot : files.Spot path directory name)
    (wellformed : files.Wellformed) : ¬directory ++ [name] <+: files.workingDirectory := by
  obtain ⟨top, count, working, here⟩ := wellformed.working
  rw [working]
  intro below
  have noneRemoved : Place.removedName ∉ directory ++ [name] := by
    intro mem
    rcases List.mem_append.mp mem with inDirectory | last
    · have there := (spot.hasDirectory wellformed).present
      exact (wellformed.isName_of_mem there inDirectory).nonempty rfl
    · exact spot.isName.nonempty (List.mem_singleton.mp last).symm
  have above := prefix_of_append_removed noneRemoved below
  by_cases same : top = directory ++ [name]
  · exact spot.regular.not_hasDirectory (same ▸ here)
  · exact here.present (spot.absent_below wellformed above same)

/-- Behind a move in its directory a regular file has the other name, and nothing has its own. -/
theorem get?_relocate (spot : files.Spot path directory name) (wellformed : files.Wellformed)
    (there : files.get? (directory ++ [name]) ≠ none)
    (free : files.get? (directory ++ [last]) = none) (place : Place) :
    (files.relocate (directory ++ [name]) (directory ++ [last])).get? place =
      if place = directory ++ [last] then files.get? (directory ++ [name])
      else if place = directory ++ [name] then none
      else files.get? place := by
  obtain ⟨apart, apart'⟩ := wellformed.apart there free (concat_not_isPrefix_self directory name)
  rw [FileSystem.get?_relocate files (by simp) apart apart']
  by_cases arrived : place = directory ++ [last]
  · rw [arrived, if_pos List.prefix_rfl, List.drop_length, List.append_nil, if_pos rfl]
  rw [if_neg arrived]
  by_cases left : place = directory ++ [name]
  · rw [left, if_neg apart', if_pos List.prefix_rfl, if_pos rfl]
  rw [if_neg left]
  split
  · rename_i below
    obtain ⟨rest, rfl⟩ := below
    rw [List.drop_left, wellformed.absent_of_above free (List.prefix_append _ _)]
    apply spot.absent_below wellformed (List.prefix_append _ _)
    intro same
    obtain rfl : rest = [] := by simpa using same
    exact arrived (List.append_nil _)
  · split
    · rename_i below
      exact (spot.absent_below wellformed below left).symm
    · rfl

theorem differs_relocate (spot : files.Spot path directory name)
    (spot' : files.Spot other directory last) (wellformed : files.Wellformed)
    (there : files.get? (directory ++ [name]) ≠ none)
    (free : files.get? (directory ++ [last]) = none) :
    Differs files (files.relocate (directory ++ [name]) (directory ++ [last]))
      [directory ++ [last], directory ++ [name]] where
  same := by
    intro place apart
    obtain ⟨arrived, left⟩ : place ≠ directory ++ [last] ∧ place ≠ directory ++ [name] := by
      simpa using apart
    rw [spot.get?_relocate wellformed there free, if_neg arrived, if_neg left]
  regular := by
    intro place mem
    rcases List.mem_pair.mp mem with rfl | rfl
    · exact spot'.regular
    · exact spot.regular
  stays := by
    intro place mem entry found
    rw [spot.get?_relocate wellformed there free] at found
    split at found
    · exact spot.regular entry found
    · split at found
      · contradiction
      · rename_i arrived left
        exact absurd (List.mem_pair.mp mem) (not_or.mpr ⟨arrived, left⟩)
  stands := by
    have outside := wellformed.workingDirectory_outside free (spot'.hasDirectory wellformed)
      spot'.isName
    rw [workingDirectory_relocate outside]
    exact whenMoved_of_outside (spot.workingDirectory_outside wellformed)
  wellformed := fun wellformed => wellformed.relocate (by simp) there free
    (spot'.hasDirectory wellformed) spot'.isName (concat_not_isPrefix_self directory name)

end Spot

end SafeDelete.FileSystem
