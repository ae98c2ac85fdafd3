/-
Module: SafeDelete.Proofs.Files.Tree
Purpose: What is at each place after an entry is put, removed or moved, and that the tree stays one.
Main exports: FileSystem.get?_insert, FileSystem.get?_relocate, FileSystem.HasDirectory,
  FileSystem.Wellformed, FileSystem.Wellformed.insert, FileSystem.Wellformed.relocate
-/
import Mathlib.Data.List.Induction
import SafeDelete.Files.Resolve

namespace SafeDelete.FileSystem

/-!
A file system is looked at through `get?` alone.  Each change of it is one equation about `get?`,
so that no later proof depends on how the entries are listed.
-/

variable {files : FileSystem} {place other : Place} {entry : Entry}

@[simp] theorem isPrefixOf_eq_false_iff : place.isPrefixOf other = false ↔ ¬place <+: other := by
  rw [← Bool.not_eq_true, List.isPrefixOf_iff_prefix]

@[simp] theorem get?_root (files : FileSystem) : files.get? [] = some (.directory 0o755) :=
  rfl

theorem get?_of_ne_nil (files : FileSystem) (proper : place ≠ []) :
    files.get? place = (files.entries.find? fun entry => entry.1 = place).map Prod.snd := by
  cases place with
  | nil => exact absurd rfl proper
  | cons name rest => rfl

theorem find?_without_self (place : Place) (entries : List (Place × Entry)) :
    (without place entries).find? (fun entry => entry.1 = place) = none := by
  simp [without]

theorem find?_without_of_ne {place other : Place} (apart : other ≠ place)
    (entries : List (Place × Entry)) :
    (without place entries).find? (fun entry => entry.1 = other) =
      entries.find? fun entry => entry.1 = other := by
  rw [without, List.find?_filter]
  congr 1
  funext entry
  by_cases here : entry.1 = other
  · simp [here, apart]
  · simp [here]

theorem get?_insert (files : FileSystem) (proper : place ≠ []) (entry : Entry) (other : Place) :
    (files.insert place entry).get? other =
      if other = place then some entry else files.get? other := by
  by_cases root : other = []
  · subst root
    rw [if_neg (Ne.symm proper), get?_root, get?_root]
  rw [get?_of_ne_nil _ root, insert, List.find?_append]
  by_cases here : other = place
  · subst here
    simp [find?_without_self]
  · rw [if_neg here, find?_without_of_ne here, get?_of_ne_nil _ root]
    simp [Ne.symm here]

@[simp] theorem workingDirectory_insert (files : FileSystem) (place : Place) (entry : Entry) :
    (files.insert place entry).workingDirectory = files.workingDirectory :=
  rfl

theorem get?_erase (files : FileSystem) (proper : place ≠ []) (other : Place) :
    (files.erase place).get? other = if other = place then none else files.get? other := by
  by_cases root : other = []
  · subst root
    rw [if_neg (Ne.symm proper), get?_root, get?_root]
  rw [get?_of_ne_nil _ root, erase]
  by_cases here : other = place
  · subst here
    simp [find?_without_self]
  · rw [if_neg here, find?_without_of_ne here, get?_of_ne_nil _ root]

@[simp] theorem workingDirectory_erase (files : FileSystem) (place : Place) :
    (files.erase place).workingDirectory = files.workingDirectory :=
  rfl

theorem get?_eraseTree (files : FileSystem) (proper : place ≠ []) (other : Place) :
    (files.eraseTree place).get? other = if place <+: other then none else files.get? other := by
  by_cases root : other = []
  · subst root
    rw [if_neg (by simpa using proper), get?_root, get?_root]
  rw [get?_of_ne_nil _ root, eraseTree, List.find?_filter]
  by_cases below : place <+: other
  · rw [if_pos below, Option.map_eq_none_iff, List.find?_eq_none]
    intro entry _ found
    obtain ⟨outside, rfl⟩ : ¬place <+: entry.1 ∧ entry.1 = other := by simpa using found
    exact outside below
  · rw [if_neg below, get?_of_ne_nil _ root]
    congr 2
    funext entry
    by_cases here : entry.1 = other
    · simp [here, below]
    · simp [here]

/-! ### Moving a tree -/

theorem whenMoved_append {source destination rest : Place} :
    Place.whenMoved (source ++ rest) source destination = destination ++ rest := by
  simp [Place.whenMoved]

theorem whenMoved_of_outside {source destination : Place} (outside : ¬source <+: place) :
    Place.whenMoved place source destination = place := by
  simp [Place.whenMoved, outside]

theorem find?_map_whenMoved {source destination : Place} (entries : List (Place × Entry))
    (free : ∀ entry ∈ entries, ¬destination <+: entry.1) (other : Place) :
    (entries.map fun entry => (entry.1.whenMoved source destination, entry.2)).find?
        (fun entry => entry.1 = other) =
      if destination <+: other then
        (entries.find? fun entry => entry.1 = source ++ other.drop destination.length).map
          fun entry => (other, entry.2)
      else if source <+: other then none
      else entries.find? fun entry => entry.1 = other := by
  induction entries with
  | nil => simp
  | cons first rest ih =>
      have restFree : ∀ entry ∈ rest, ¬destination <+: entry.1 := fun entry mem =>
        free entry (List.mem_cons_of_mem _ mem)
      rw [List.map_cons, List.find?_cons, ih restFree, List.find?_cons, List.find?_cons]
      by_cases moved : source <+: first.1
      · obtain ⟨tail, eq⟩ := moved
        have there : first.1.whenMoved source destination = destination ++ tail := by
          rw [← eq, whenMoved_append]
        rw [there]
        by_cases here : destination ++ tail = other
        · subst here
          simp [← eq]
        · have notFirst : destination <+: other →
              ¬first.1 = source ++ other.drop destination.length := by
            rintro ⟨back, rfl⟩ same
            rw [← eq, List.drop_left, List.append_cancel_left_eq] at same
            exact here (by rw [same])
          have notOther : ¬source <+: other → ¬first.1 = other := fun outside same =>
            outside (same ▸ ⟨tail, eq⟩)
          by_cases into : destination <+: other
          · simp [here, into, notFirst into]
          · by_cases out : source <+: other
            · simp [here, into, out]
            · simp [here, into, out, notOther out]
      · rw [whenMoved_of_outside moved]
        have stays : ¬destination <+: first.1 := free first List.mem_cons_self
        by_cases here : first.1 = other
        · subst here
          simp [stays, moved]
        · have notFirst : ¬first.1 = source ++ other.drop destination.length := fun same =>
            moved (same ▸ List.prefix_append _ _)
          simp [here, notFirst]

/-- Behind a move the tree that was at `source` is at `destination`, and nothing else there. -/
theorem get?_relocate (files : FileSystem) {source destination : Place} (proper : source ≠ [])
    (apart : ¬source <+: destination) (apart' : ¬destination <+: source) (other : Place) :
    (files.relocate source destination).get? other =
      if destination <+: other then files.get? (source ++ other.drop destination.length)
      else if source <+: other then none
      else files.get? other := by
  have properDestination : destination ≠ [] := fun root => apart' (root ▸ List.nil_prefix)
  by_cases root : other = []
  · subst root
    simp [proper, properDestination]
  have free : ∀ entry ∈ (files.eraseTree destination).entries, ¬destination <+: entry.1 := by
    intro entry mem
    simpa [eraseTree] using (List.mem_filter.mp mem).2
  rw [get?_of_ne_nil _ root, relocate, find?_map_whenMoved _ free]
  by_cases into : destination <+: other
  · have outside : ¬destination <+: source ++ other.drop destination.length := by
      intro inside
      obtain ⟨back, rfl⟩ := into
      rw [List.drop_left] at inside
      rcases List.prefix_or_prefix_of_prefix inside (List.prefix_append source back) with h | h
      · exact apart' h
      · exact apart h
    have kept := get?_eraseTree files properDestination (source ++ other.drop destination.length)
    rw [if_neg outside, get?_of_ne_nil _ (by simp [proper])] at kept
    rw [if_pos into, if_pos into, ← kept, Option.map_map]
    rfl
  · rw [if_neg into, if_neg into]
    by_cases out : source <+: other
    · simp [out]
    · have kept := get?_eraseTree files properDestination other
      rw [if_neg into, get?_of_ne_nil _ root] at kept
      rw [if_neg out, if_neg out, kept]

/-- A move to where nothing is takes every entry at or below `source` along, and no other. -/
theorem get?_relocate_eq_some_iff {source destination : Place} (proper : source ≠ [])
    (apart : ¬source <+: destination) (apart' : ¬destination <+: source)
    (free : ∀ place, destination <+: place → files.get? place = none) :
    (files.relocate source destination).get? other = some entry ↔
      ∃ old, other = old.whenMoved source destination ∧ files.get? old = some entry := by
  rw [get?_relocate files proper apart apart']
  constructor
  · intro found
    split at found
    · rename_i below
      obtain ⟨rest, rfl⟩ := below
      rw [List.drop_left] at found
      exact ⟨source ++ rest, whenMoved_append.symm, found⟩
    · split at found
      · cases found
      · rename_i outside
        exact ⟨other, (whenMoved_of_outside outside).symm, found⟩
  · rintro ⟨old, rfl, found⟩
    by_cases inside : source <+: old
    · obtain ⟨rest, rfl⟩ := inside
      rw [whenMoved_append, if_pos (List.prefix_append _ _), List.drop_left, found]
    · rw [whenMoved_of_outside inside, if_neg, if_neg inside, found]
      exact fun below => absurd ((free old below).symm.trans found) (by simp)

/-! ### A tree of directories -/

/-- There is a directory at a place. -/
def HasDirectory (files : FileSystem) (place : Place) : Prop :=
  ∃ mode, files.get? place = some (.directory mode)

/-- A name that an entry can have. -/
structure IsName (name : Text) : Prop where
  nonempty : name ≠ []
  ne_itself : name ≠ itself
  ne_above : name ≠ above
  noSlash : '/' ∉ name

instance (name : Text) : Decidable (IsName name) :=
  decidable_of_iff (name ≠ [] ∧ name ≠ itself ∧ name ≠ above ∧ '/' ∉ name)
    ⟨fun ⟨nonempty, ne_itself, ne_above, noSlash⟩ => ⟨nonempty, ne_itself, ne_above, noSlash⟩,
      fun named => ⟨named.nonempty, named.ne_itself, named.ne_above, named.noSlash⟩⟩

instance (files : FileSystem) (place : Place) : Decidable (files.HasDirectory place) :=
  match found : files.get? place with
  | some (.directory mode) => isTrue ⟨mode, found⟩
  | some (.file _ _) => isFalse fun ⟨_, directory⟩ => by simp [found] at directory
  | some (.link _) => isFalse fun ⟨_, directory⟩ => by simp [found] at directory
  | none => isFalse fun ⟨_, directory⟩ => by simp [found] at directory

/-- A place where a process can be: a directory, or one that was removed from below a directory. -/
def IsStation (files : FileSystem) (place : Place) : Prop :=
  ∃ top count, place = top ++ List.replicate count Place.removedName ∧ files.HasDirectory top

/-- The places form a tree: above every entry is a directory, and every entry has a name. -/
structure Wellformed (files : FileSystem) : Prop where
  parent : ∀ place name, files.get? (place ++ [name]) ≠ none → files.HasDirectory place
  name : ∀ place name, files.get? (place ++ [name]) ≠ none → IsName name
  working : files.IsStation files.workingDirectory

theorem HasDirectory.root (files : FileSystem) : files.HasDirectory [] :=
  ⟨_, rfl⟩

theorem HasDirectory.present (here : files.HasDirectory place) : files.get? place ≠ none := by
  obtain ⟨mode, eq⟩ := here
  simp [eq]

theorem HasDirectory.isStation (here : files.HasDirectory place) : files.IsStation place :=
  ⟨place, 0, by simp, here⟩

theorem IsStation.root (files : FileSystem) : files.IsStation [] :=
  (HasDirectory.root files).isStation

theorem hasDirectory_congr {later : FileSystem} (same : later.get? place = files.get? place) :
    later.HasDirectory place ↔ files.HasDirectory place := by
  rw [HasDirectory, HasDirectory, same]

/-- A place that is not removed is a directory, if it is one where a process can be. -/
theorem IsStation.hasDirectory (here : files.IsStation place) (stands : place.isRemoved = false) :
    files.HasDirectory place := by
  obtain ⟨top, count, rfl, directory⟩ := here
  cases count with
  | zero => simpa using directory
  | succ count =>
      rw [List.replicate_succ'] at stands
      simp [Place.isRemoved] at stands

namespace Wellformed

variable (wellformed : files.Wellformed)

include wellformed

theorem hasDirectory_of_append {rest : List Text} (there : files.get? (place ++ rest) ≠ none)
    (below : rest ≠ []) : files.HasDirectory place := by
  induction rest using List.reverseRecOn with
  | nil => exact absurd rfl below
  | append_singleton front last ih =>
      have parent : files.HasDirectory (place ++ front) := by
        refine wellformed.parent (place ++ front) last ?_
        rwa [List.append_assoc]
      by_cases empty : front = []
      · simpa [empty] using parent
      · exact ih parent.present empty

theorem hasDirectory_of_above (there : files.get? other ≠ none) (above : place <+: other)
    (apart : place ≠ other) : files.HasDirectory place := by
  obtain ⟨rest, rfl⟩ := above
  exact wellformed.hasDirectory_of_append there (by simpa using apart)

/-- Below what is no directory there is nothing. -/
theorem absent_below (notDirectory : ¬files.HasDirectory place) (below : place <+: other)
    (apart : place ≠ other) : files.get? other = none :=
  Classical.byContradiction fun there =>
    notDirectory (wellformed.hasDirectory_of_above there below apart)

theorem absent_of_above (absent : files.get? place = none) (below : place <+: other) :
    files.get? other = none := by
  by_cases same : place = other
  · exact same ▸ absent
  · exact wellformed.absent_below (fun directory => directory.present absent) below same

theorem isName_of_mem (there : files.get? place ≠ none) {name : Text} (mem : name ∈ place) :
    IsName name := by
  obtain ⟨front, back, rfl⟩ := List.append_of_mem mem
  refine wellformed.name front name ?_
  by_cases last : back = []
  · simpa [last] using there
  · refine (wellformed.hasDirectory_of_append ?_ last).present
    rwa [List.append_assoc, List.singleton_append]

theorem isRemoved_eq_false (here : files.HasDirectory place) : place.isRemoved = false := by
  refine Bool.eq_false_iff.mpr fun removed => ?_
  have last : place.getLast? = some Place.removedName := by simpa [Place.isRemoved] using removed
  exact (wellformed.isName_of_mem here.present (List.mem_of_getLast? last)).nonempty rfl

theorem isStation_dropLast (here : files.IsStation place) : files.IsStation place.dropLast := by
  obtain ⟨top, count, rfl, directory⟩ := here
  cases count with
  | zero =>
      rw [List.replicate_zero, List.append_nil]
      rcases List.eq_nil_or_concat top with rfl | ⟨front, last, rfl⟩
      · exact IsStation.root files
      · rw [List.concat_eq_append] at *
        rw [List.dropLast_concat]
        exact (wellformed.parent front last directory.present).isStation
  | succ count =>
      refine ⟨top, count, ?_, directory⟩
      rw [List.replicate_succ', ← List.append_assoc, List.dropLast_concat]

end Wellformed

/-- Listed entries form a tree, if each of them has a name in a directory. -/
theorem wellformed_of_entries
    (listed : ∀ entry ∈ files.entries, ∀ name ∈ entry.1.getLast?,
      files.HasDirectory entry.1.dropLast ∧ IsName name)
    (working : files.HasDirectory files.workingDirectory) : files.Wellformed := by
  have both : ∀ place name, files.get? (place ++ [name]) ≠ none →
      files.HasDirectory place ∧ IsName name := by
    intro place name there
    rw [get?_of_ne_nil files (by simp)] at there
    obtain ⟨found, eq⟩ := Option.ne_none_iff_exists'.mp there
    obtain ⟨entry, search, -⟩ := Option.map_eq_some_iff.mp eq
    have here : entry.1 = place ++ [name] := by simpa using List.find?_some search
    simpa [here] using listed entry (List.mem_of_find?_eq_some search) name (by simp [here])
  exact ⟨fun place name there => (both place name there).1,
    fun place name there => (both place name there).2, working.isStation⟩

/-! ### Changes that keep the tree one -/

theorem IsStation.mono {later : FileSystem} (here : files.IsStation place)
    (kept : ∀ place, files.HasDirectory place → later.HasDirectory place) :
    later.IsStation place := by
  obtain ⟨top, count, eq, directory⟩ := here
  exact ⟨top, count, eq, kept top directory⟩

theorem Wellformed.congr {later : FileSystem} (wellformed : files.Wellformed)
    (same : ∀ place, later.get? place = files.get? place)
    (stands : later.workingDirectory = files.workingDirectory) : later.Wellformed where
  parent := fun place name there =>
    (hasDirectory_congr (same place)).mpr (wellformed.parent place name (same _ ▸ there))
  name := fun place name there => wellformed.name place name (same _ ▸ there)
  working := stands ▸ wellformed.working.mono fun place => (hasDirectory_congr (same place)).mpr

/-- Names that entries have lead to no removed directory. -/
theorem prefix_of_append_removed {top : Place} {count : Nat} (named : Place.removedName ∉ place)
    (below : place <+: top ++ List.replicate count Place.removedName) : place <+: top := by
  rcases List.prefix_or_prefix_of_prefix below (List.prefix_append top _) with short | ⟨rest, rfl⟩
  · exact short
  · cases rest with
    | nil => simp
    | cons name rest =>
        rw [List.prefix_append_right_inj] at below
        have removed : name = Place.removedName :=
          List.eq_of_mem_replicate (below.subset List.mem_cons_self)
        exact absurd (by simp [removed]) named

theorem Wellformed.insert (wellformed : files.Wellformed) {directory : Place} {name : Text}
    (here : files.HasDirectory directory) (named : IsName name)
    (replaced : files.HasDirectory (directory ++ [name]) → entry.isDirectory = true) :
    (files.insert (directory ++ [name]) entry).Wellformed := by
  have get := @get?_insert (directory ++ [name]) files (by simp) entry
  have kept : ∀ place, files.HasDirectory place →
      (files.insert (directory ++ [name]) entry).HasDirectory place := by
    intro place old
    by_cases same : place = directory ++ [name]
    · subst same
      rw [HasDirectory, get, if_pos rfl]
      cases entry with
      | directory mode => exact ⟨mode, rfl⟩
      | file mode content => exact absurd (replaced old) (by simp [Entry.isDirectory])
      | link target => exact absurd (replaced old) (by simp [Entry.isDirectory])
    · exact (hasDirectory_congr (by rw [get, if_neg same])).mpr old
  have before : ∀ place last,
      (files.insert (directory ++ [name]) entry).get? (place ++ [last]) ≠ none →
        (place = directory ∧ last = name) ∨ files.get? (place ++ [last]) ≠ none := by
    intro place last present
    rw [get] at present
    split at present
    · rename_i same
      exact Or.inl (by simpa using same)
    · exact Or.inr present
  refine ⟨fun place last present => ?_, fun place last present => ?_,
    wellformed.working.mono kept⟩
  · rcases before place last present with ⟨rfl, rfl⟩ | old
    · exact kept place here
    · exact kept place (wellformed.parent place last old)
  · rcases before place last present with ⟨rfl, rfl⟩ | old
    · exact named
    · exact wellformed.name place last old

theorem Wellformed.erase (wellformed : files.Wellformed) (proper : place ≠ [])
    (plain : ¬files.HasDirectory place) : (files.erase place).Wellformed := by
  have get := get?_erase files proper
  have kept : ∀ other, files.HasDirectory other → (files.erase place).HasDirectory other := by
    intro other old
    refine (hasDirectory_congr ?_).mpr old
    rw [get, if_neg fun same : other = place => plain (same ▸ old)]
  have before : ∀ other last, (files.erase place).get? (other ++ [last]) ≠ none →
      files.get? (other ++ [last]) ≠ none := by
    intro other last present
    rw [get] at present
    split at present
    · contradiction
    · exact present
  exact ⟨fun other last present => kept other (wellformed.parent other last (before _ _ present)),
    fun other last present => wellformed.name other last (before _ _ present),
    wellformed.working.mono kept⟩

/-- An entry and a free name in a directory that is not below it: neither is below the other. -/
theorem Wellformed.apart (wellformed : files.Wellformed) {source directory : Place} {name : Text}
    (there : files.get? source ≠ none) (free : files.get? (directory ++ [name]) = none)
    (outside : ¬source <+: directory) :
    ¬source <+: directory ++ [name] ∧ ¬directory ++ [name] <+: source := by
  constructor
  · intro below
    rcases List.prefix_concat_iff.mp below with same | inside
    · exact there (same ▸ free)
    · exact outside inside
  · exact fun below => there (wellformed.absent_of_above free below)

/-- No process is below a free name. -/
theorem Wellformed.workingDirectory_outside (wellformed : files.Wellformed) {directory : Place}
    {name : Text} (free : files.get? (directory ++ [name]) = none)
    (here : files.HasDirectory directory) (named : IsName name) :
    ¬directory ++ [name] <+: files.workingDirectory := by
  obtain ⟨top, count, working, directoryTop⟩ := wellformed.working
  rw [working]
  intro below
  have noneRemoved : Place.removedName ∉ directory ++ [name] := by
    rw [List.mem_append, List.mem_singleton]
    rintro (mem | removed)
    · exact (wellformed.isName_of_mem here.present mem).nonempty rfl
    · exact named.nonempty removed.symm
  exact directoryTop.present
    (wellformed.absent_of_above free (prefix_of_append_removed noneRemoved below))

/-- Moving a tree takes the processes that work in it along. -/
theorem workingDirectory_relocate {source destination : Place}
    (outside : ¬destination <+: files.workingDirectory) :
    (files.relocate source destination).workingDirectory =
      files.workingDirectory.whenMoved source destination := by
  rw [relocate, eraseTree, Place.whenRemoved,
    if_neg (by simpa [List.isPrefixOf_iff_prefix] using outside)]

/-- What is there behind a move is the destination, or stood below the source, or was there
before. -/
theorem relocate_cases {source directory : Place} {name last : Text} (proper : source ≠ [])
    (apart : ¬source <+: directory ++ [name]) (apart' : ¬directory ++ [name] <+: source)
    (present : (files.relocate source (directory ++ [name])).get? (place ++ [last]) ≠ none) :
    (place = directory ∧ last = name) ∨
      (∃ rest, place = directory ++ [name] ++ rest ∧
        files.get? (source ++ rest ++ [last]) ≠ none) ∨
      (¬source <+: place ∧ files.get? (place ++ [last]) ≠ none) := by
  rw [get?_relocate files proper apart apart'] at present
  split at present
  · rename_i below
    rcases List.prefix_concat_iff.mp below with same | ⟨rest, rfl⟩
    · exact Or.inl (by simpa [eq_comm] using same)
    · refine Or.inr (Or.inl ⟨rest, rfl, ?_⟩)
      rwa [List.append_assoc (directory ++ [name]), List.drop_left, ← List.append_assoc]
        at present
  · split at present
    · contradiction
    · rename_i stays
      exact Or.inr (Or.inr ⟨fun below => stays (below.trans (List.prefix_append _ _)), present⟩)

theorem Wellformed.relocate (wellformed : files.Wellformed) {source directory : Place} {name : Text}
    (proper : source ≠ []) (there : files.get? source ≠ none)
    (free : files.get? (directory ++ [name]) = none) (here : files.HasDirectory directory)
    (named : IsName name) (outside : ¬source <+: directory) :
    (files.relocate source (directory ++ [name])).Wellformed := by
  obtain ⟨apart, apart'⟩ := wellformed.apart there free outside
  have get := get?_relocate files proper apart apart'
  have kept : ∀ place, files.HasDirectory place → ¬source <+: place →
      (files.relocate source (directory ++ [name])).HasDirectory place := by
    intro place old stays
    refine (hasDirectory_congr ?_).mpr old
    rw [get, if_neg fun below => old.present (wellformed.absent_of_above free below),
      if_neg stays]
  have moved : ∀ rest, files.HasDirectory (source ++ rest) →
      (files.relocate source (directory ++ [name])).HasDirectory (directory ++ [name] ++ rest) := by
    rintro rest ⟨mode, old⟩
    refine ⟨mode, ?_⟩
    rw [get, if_pos (List.prefix_append _ _), List.drop_left, old]
  refine ⟨fun place last present => ?_, fun place last present => ?_, ?_⟩
  · rcases relocate_cases proper apart apart' present with
      ⟨rfl, rfl⟩ | ⟨rest, rfl, old⟩ | ⟨stays, old⟩
    · exact kept place here outside
    · exact moved rest (wellformed.parent _ last old)
    · exact kept place (wellformed.parent place last old) stays
  · rcases relocate_cases proper apart apart' present with
      ⟨rfl, rfl⟩ | ⟨rest, rfl, old⟩ | ⟨_, old⟩
    · exact named
    · exact wellformed.name _ last old
    · exact wellformed.name place last old
  · rw [workingDirectory_relocate (wellformed.workingDirectory_outside free here named)]
    obtain ⟨top, count, working, directoryTop⟩ := wellformed.working
    have noneRemoved : Place.removedName ∉ source := fun mem =>
      (wellformed.isName_of_mem there mem).nonempty rfl
    rw [working]
    by_cases inside : source <+: top
    · obtain ⟨rest, rfl⟩ := inside
      rw [List.append_assoc, whenMoved_append, ← List.append_assoc]
      exact ⟨_, count, rfl, moved rest directoryTop⟩
    · rw [whenMoved_of_outside fun below => inside (prefix_of_append_removed noneRemoved below)]
      exact ⟨top, count, rfl, kept top directoryTop inside⟩

end SafeDelete.FileSystem
