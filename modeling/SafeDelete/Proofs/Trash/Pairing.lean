/-
Module: SafeDelete.Proofs.Trash.Pairing
Purpose: Over whole runs, every entry of a trash with records has its record, and no record is
  without an entry.
Main exports: IsPaired, Fills, History, isPaired_of_history
-/
import SafeDelete.Proofs.Trash.PureMove

namespace SafeDelete

open Effect FileSystem

/-!
A run is looked at through the trash alone: what its two directories hold, and that no link leads
to them.  `Fills` is what a step does to it, be it a move that succeeds, one that fails or a change
elsewhere; steps compose, and what they keep is again what the next one needs.
-/

/-! ## A trash and its pairs -/

/-- The place of a trash, by the text of its path. -/
def trashPlace (directory : PathName) : Place :=
  normal [] directory.parts

/-- The place of the entry with a name. -/
def entryPlace (directory : PathName) (name : Text) : Place :=
  trashPlace directory ++ [entriesName] ++ [name]

/-- The place of the record about the entry with a name. -/
def notePlace (directory : PathName) (name : Text) : Place :=
  trashPlace directory ++ [recordsName] ++ [name ++ TrashInfo.suffix]

/-- The two directories of the trash are missing or hold pairs, an entry and a record each. -/
structure IsPaired (directory : PathName) (files : FileSystem) : Prop where
  entries : ∀ entry, files.get? (trashPlace directory ++ [entriesName]) = some entry →
    entry.isDirectory = true
  records : ∀ entry, files.get? (trashPlace directory ++ [recordsName]) = some entry →
    entry.isDirectory = true
  noted : ∀ name, files.get? (entryPlace directory name) ≠ none →
    ∃ mode content, files.get? (notePlace directory name) = some (.file mode content)
  matched : ∀ last, files.get? (trashPlace directory ++ [recordsName] ++ [last]) ≠ none →
    ∃ name, last = name ++ TrashInfo.suffix ∧ files.get? (entryPlace directory name) ≠ none

/-- The path of the trash starts at a root, and does not lead through the trash itself. -/
structure IsFixed (directory : PathName) : Prop where
  rooted : directory.root ≠ .relative
  outside : ∀ front, front <+: directory.parts → trashPlace directory <+: normal [] front →
    normal [] front = trashPlace directory

/-- The files are a tree in which no link leads to the trash, and the trash holds pairs. -/
structure IsOrderly (directory : PathName) (files : FileSystem) : Prop where
  wellformed : files.Wellformed
  unlinked : files.IsUnlinked directory
  paired : IsPaired directory files

/-- Of the files, the later ones have what was in the trash and new pairs, each an entry with a
record that tells its path.  No link is on the way to the trash that was not there before. -/
structure Fills (directory : PathName) (files later : FileSystem) (pairs : List (Text × Text)) :
    Prop where
  wellformed : later.Wellformed
  way : ∀ front, front <+: directory.parts → later.HasLink (normal [] front) →
    files.HasLink (normal [] front)
  kept : ∀ place entry, trashPlace directory <+: place → files.get? place = some entry →
    later.get? place = some entry
  fresh : ∀ place entry, trashPlace directory <+: place → later.get? place = some entry →
    files.get? place = some entry ∨
    (entry.isDirectory = true ∧ place.length ≤ (trashPlace directory).length + 1) ∨
    ∃ pair ∈ pairs, entryPlace directory pair.1 <+: place ∨ place = notePlace directory pair.1
  added : ∀ pair ∈ pairs, files.get? (entryPlace directory pair.1) = none ∧
    later.get? (entryPlace directory pair.1) ≠ none ∧
    ∃ mode content, later.get? (notePlace directory pair.1) = some (.file mode content) ∧
      TrashInfo.path? content = some pair.2
  distinct : (pairs.map Prod.fst).Nodup

variable {files made noted later last : FileSystem} {host : Host} {directory source : PathName}
  {destination : PathName} {name : Text} {place : Place} {pairs more : List (Text × Text)}

theorem entryPlace_below (directory : PathName) (name : Text) :
    trashPlace directory <+: entryPlace directory name := by
  rw [entryPlace, List.append_assoc]
  exact List.prefix_append _ _

theorem notePlace_below (directory : PathName) (name : Text) :
    trashPlace directory <+: notePlace directory name := by
  rw [notePlace, List.append_assoc]
  exact List.prefix_append _ _

/-- A trash that is not there holds pairs. -/
theorem isPaired_of_absent (wellformed : files.Wellformed)
    (absent : files.get? (trashPlace directory) = none) : IsPaired directory files := by
  have none : ∀ place, trashPlace directory <+: place → files.get? place = none := fun _ =>
    wellformed.absent_of_above absent
  refine ⟨fun entry found => ?_, fun entry found => ?_, fun name there => ?_, fun last there => ?_⟩
  · exact absurd ((none _ (List.prefix_append _ _)).symm.trans found) (by simp)
  · exact absurd ((none _ (List.prefix_append _ _)).symm.trans found) (by simp)
  · exact absurd (none _ (entryPlace_below _ _)) there
  · refine absurd (none _ ?_) there
    rw [List.append_assoc]
    exact List.prefix_append _ _

namespace Fills

theorem refl (wellformed : files.Wellformed) : Fills directory files files [] where
  wellformed := wellformed
  way := fun _ _ => id
  kept := fun _ _ _ => id
  fresh := fun _ _ _ => Or.inl
  added := fun _ mem => absurd mem List.not_mem_nil
  distinct := List.nodup_nil

theorem present (fills : Fills directory files later pairs) (below : trashPlace directory <+: place)
    (there : files.get? place ≠ none) : later.get? place ≠ none := by
  obtain ⟨entry, found⟩ := Option.ne_none_iff_exists'.mp there
  simp [fills.kept place entry below found]

theorem trans (first : Fills directory files later pairs)
    (second : Fills directory later last more) : Fills directory files last (pairs ++ more) where
  wellformed := second.wellformed
  way := fun front short link => first.way front short (second.way front short link)
  kept := fun place entry below found =>
    second.kept place entry below (first.kept place entry below found)
  fresh := by
    intro place entry below found
    rcases second.fresh place entry below found with old | directory | ⟨pair, mem, new⟩
    · rcases first.fresh place entry below old with old | directory | ⟨pair, mem, new⟩
      · exact Or.inl old
      · exact Or.inr (Or.inl directory)
      · exact Or.inr (Or.inr ⟨pair, List.mem_append_left _ mem, new⟩)
    · exact Or.inr (Or.inl directory)
    · exact Or.inr (Or.inr ⟨pair, List.mem_append_right _ mem, new⟩)
  added := by
    intro pair mem
    rcases List.mem_append.mp mem with early | late
    · obtain ⟨free, there, mode, content, note, told⟩ := first.added pair early
      exact ⟨free, second.present (entryPlace_below _ _) there, mode, content,
        second.kept _ _ (notePlace_below _ _) note, told⟩
    · obtain ⟨free, behind⟩ := second.added pair late
      exact ⟨Classical.byContradiction fun there =>
        first.present (entryPlace_below _ _) there free, behind⟩
  distinct := by
    rw [List.map_append]
    refine List.nodup_append'.mpr ⟨first.distinct, second.distinct, ?_⟩
    intro name early late
    obtain ⟨pair, mem, rfl⟩ := List.mem_map.mp early
    obtain ⟨other, mem', same⟩ := List.mem_map.mp late
    exact (first.added pair mem).2.1 (same ▸ (second.added other mem').1)

end Fills

theorem entryPlace_injective {other : Text}
    (below : entryPlace directory name <+: entryPlace directory other) : name = other := by
  have parts : [name] <+: [other] := by
    simpa only [entryPlace, List.prefix_append_right_inj] using below
  simpa using parts

theorem entryPlace_not_above_record (directory : PathName) (name last : Text) :
    ¬entryPlace directory name <+: trashPlace directory ++ [recordsName] ++ [last] := by
  have apart : entriesName ≠ recordsName := by decide
  simp [entryPlace, List.prefix_append_right_inj, List.cons_prefix_cons, apart]

theorem length_entryPlace (directory : PathName) (name : Text) :
    (entryPlace directory name).length = (trashPlace directory).length + 2 := by
  simp [entryPlace]

theorem placeOf_of_rooted (fixed : IsFixed directory) (files : FileSystem) (parts : List Text) :
    files.placeOf ⟨directory.root, parts⟩ = normal [] parts := by
  rw [placeOf, base, if_neg fixed.rooted]

/-- An entry of the trash was there before, or is one of the pairs. -/
theorem Fills.entry_cases (fills : Fills directory files later pairs)
    (there : later.get? (entryPlace directory name) ≠ none) :
    files.get? (entryPlace directory name) ≠ none ∨ ∃ pair ∈ pairs, pair.1 = name := by
  obtain ⟨entry, found⟩ := Option.ne_none_iff_exists'.mp there
  rcases fills.fresh _ entry (entryPlace_below _ _) found with old | new | ⟨pair, mem, below | same⟩
  · exact Or.inl (Option.ne_none_iff_exists'.mpr ⟨entry, old⟩)
  · have short := new.2
    rw [length_entryPlace] at short
    omega
  · exact Or.inr ⟨pair, mem, entryPlace_injective below⟩
  · have below : entryPlace directory name <+: notePlace directory pair.1 := same ▸ List.prefix_rfl
    exact absurd below (entryPlace_not_above_record _ _ _)

/-- A trash that is filled with pairs holds pairs. -/
theorem Fills.isOrderly (fills : Fills directory files later pairs) (fixed : IsFixed directory)
    (orderly : IsOrderly directory files) : IsOrderly directory later where
  wellformed := fills.wellformed
  unlinked := by
    intro front short link
    rw [placeOf_of_rooted fixed] at link
    have old := orderly.unlinked front short
    rw [placeOf_of_rooted fixed] at old
    exact old (fills.way front short link)
  paired := by
    -- What is new right in the trash is one of its directories.
    have shallow : ∀ {name : Text} {entry : Entry},
        later.get? (trashPlace directory ++ [name]) = some entry →
          files.get? (trashPlace directory ++ [name]) = some entry ∨ entry.isDirectory = true := by
      intro name entry found
      rcases fills.fresh _ entry (List.prefix_append _ _) found with
        old | new | ⟨pair, _, below | same⟩
      · exact Or.inl old
      · exact Or.inr new.1
      · have short := below.length_le
        rw [length_entryPlace, List.length_append, List.length_singleton] at short
        omega
      · have short := congrArg List.length same
        simp [notePlace] at short
    refine ⟨fun entry found => ?_, fun entry found => ?_, fun name there => ?_,
      fun last there => ?_⟩
    · exact (shallow found).elim (orderly.paired.entries entry) id
    · exact (shallow found).elim (orderly.paired.records entry) id
    · rcases fills.entry_cases there with old | ⟨pair, mem, rfl⟩
      · obtain ⟨mode, content, note⟩ := orderly.paired.noted name old
        exact ⟨mode, content, fills.kept _ _ (notePlace_below _ _) note⟩
      · obtain ⟨-, -, mode, content, note, -⟩ := fills.added pair mem
        exact ⟨mode, content, note⟩
    · obtain ⟨entry, found⟩ := Option.ne_none_iff_exists'.mp there
      have inTrash : trashPlace directory <+: trashPlace directory ++ [recordsName] ++ [last] := by
        rw [List.append_assoc]
        exact List.prefix_append _ _
      rcases fills.fresh _ entry inTrash found with old | new | ⟨pair, mem, below | same⟩
      · obtain ⟨name, rfl, entry⟩ := orderly.paired.matched last
          (Option.ne_none_iff_exists'.mpr ⟨entry, old⟩)
        exact ⟨name, rfl, fills.present (entryPlace_below _ _) entry⟩
      · have short := new.2
        simp only [List.length_append, List.length_singleton] at short
        omega
      · exact absurd below (entryPlace_not_above_record _ _ _)
      · obtain ⟨-, there, -⟩ := fills.added pair mem
        have same : last = pair.1 ++ TrashInfo.suffix := by
          simpa only [notePlace, List.append_cancel_left_eq, List.cons.injEq, and_true] using same
        exact ⟨pair.1, same, there⟩

/-! ## One step -/

/-- The directories of a trash with records are right in it. -/
theorem eq_of_mem_directories {path : PathName}
    (mem : path ∈ Trash.directories ⟨.paired, directory⟩) :
    ∃ last, (last = entriesName ∨ last = recordsName) ∧ IsName last ∧
      path = ⟨directory.root, directory.parts ++ [last]⟩ := by
  rcases List.mem_cons.mp mem with rfl | mem
  · exact ⟨entriesName, Or.inl rfl, isName_entriesName, entriesPath_eq directory⟩
  · obtain rfl := List.mem_singleton.mp mem
    exact ⟨recordsName, Or.inr rfl, isName_recordsName, recordsPath_eq directory⟩

/-- A directory that is made on the way to the trash is not below its two directories. -/
theorem IsFixed.length_le_of_way (fixed : IsFixed directory) {path : PathName} {front : List Text}
    (mem : path ∈ Trash.directories ⟨.paired, directory⟩) (short : front <+: path.parts)
    (below : trashPlace directory <+: files.placeOf ⟨path.root, front⟩) :
    (files.placeOf ⟨path.root, front⟩).length ≤ (trashPlace directory).length + 1 := by
  obtain ⟨last, -, named, rfl⟩ := eq_of_mem_directories mem
  rcases List.prefix_concat_iff.mp short with rfl | shorter
  · rw [placeOf_append named, placeOf_of_rooted fixed, List.length_append, List.length_singleton]
    exact Nat.le_refl _
  · rw [placeOf_of_rooted fixed] at below ⊢
    rw [fixed.outside front shorter below]
    exact Nat.le_succ _

theorem IsOrderly.unlinked_directories (orderly : IsOrderly directory files)
    (fixed : IsFixed directory) :
    ∀ path ∈ Trash.directories ⟨.paired, directory⟩, files.IsUnlinked path := by
  intro path mem front short link
  obtain ⟨last, isLast, named, rfl⟩ := eq_of_mem_directories mem
  rcases List.prefix_concat_iff.mp short with rfl | shorter
  · rw [placeOf_append named, placeOf_of_rooted fixed] at link
    obtain ⟨text, found⟩ := link
    rcases isLast with rfl | rfl
    · exact absurd (orderly.paired.entries _ found) (by simp [Entry.isDirectory])
    · exact absurd (orderly.paired.records _ found) (by simp [Entry.isDirectory])
  · exact orderly.unlinked front shorter link

/-- Making the directories of the trash adds no pair. -/
theorem Fills.of_grows (fixed : IsFixed directory) (orderly : IsOrderly directory files)
    (grows : Grows files later (Trash.directories ⟨.paired, directory⟩)) :
    Fills directory files later [] where
  wellformed := grows.wellformed orderly.wellformed
  way := fun _ _ => grows.hasLink
  kept := fun place entry _ => grows.kept place entry
  fresh := by
    intro place entry below found
    cases old : files.get? place with
    | some kept =>
        obtain rfl := Option.some.inj ((grows.kept place kept old).symm.trans found)
        exact Or.inl rfl
    | none =>
        obtain ⟨isDirectory, path, mem, front, short, rfl⟩ :=
          grows.fresh_placeOf (orderly.unlinked_directories fixed) old found
        exact Or.inr (Or.inl ⟨isDirectory, fixed.length_le_of_way mem short below⟩)
  added := fun _ mem => absurd mem List.not_mem_nil
  distinct := List.nodup_nil

/-- What another process may change: not the trash, and not the way to it. -/
structure LeavesTrash (directory : PathName) (files later : FileSystem) : Prop where
  inside : ∀ place, trashPlace directory <+: place → later.get? place = files.get? place
  way : ∀ front, front <+: directory.parts →
    later.get? (normal [] front) = files.get? (normal [] front)

theorem Fills.of_leavesTrash (leaves : LeavesTrash directory files later)
    (wellformed : later.Wellformed) : Fills directory files later [] where
  wellformed := wellformed
  way := fun front short ⟨text, found⟩ => ⟨text, (leaves.way front short).symm.trans found⟩
  kept := fun place _ below found => (leaves.inside place below).trans found
  fresh := fun place _ below found => Or.inl ((leaves.inside place below).symm.trans found)
  added := fun _ mem => absurd mem List.not_mem_nil
  distinct := List.nodup_nil

theorem placeOf_slot (fixed : IsFixed directory) (isName : IsName name) :
    files.placeOf (Trash.slot ⟨.paired, directory⟩ name) = entryPlace directory name := by
  rw [Trash.slot, placeOf_append isName, Trash.entries, entriesPath_eq,
    placeOf_append isName_entriesName, placeOf_of_rooted fixed, entryPlace, trashPlace]

theorem isRecordPlace_iff (fixed : IsFixed directory) (isName : IsName name) :
    IsRecordPlace files ⟨.paired, directory⟩ name place ↔ place = notePlace directory name := by
  have same : files.placeOf (recordPath directory name) = notePlace directory name := by
    rw [placeOf_recordPath files directory isName.noSlash, placeOf_of_rooted fixed, notePlace,
      trashPlace]
  constructor
  · rintro ⟨_, eq, rfl⟩
    cases eq
    exact same
  · rintro rfl
    exact ⟨directory, rfl, same.symm⟩

/-- What is there behind a pure move is below the new entry, was there before, is a directory of the
trash, or is the record. -/
theorem IsPureMove.cases (fixed : IsFixed directory) {entry : Entry} {other : Place}
    (pure : IsPureMove host files source ⟨.paired, directory⟩ place name later)
    (found : later.get? other = some entry) :
    entryPlace directory name <+: other ∨ files.get? other = some entry ∨
      (entry.isDirectory = true ∧ ∃ path ∈ Trash.directories ⟨.paired, directory⟩, ∃ front,
        front <+: path.parts ∧ other = files.placeOf ⟨path.root, front⟩) ∨
      (other = notePlace directory name ∧ entry = TrashInfo.entry ⟨source.toText, host.time⟩) := by
  have slot := @placeOf_slot files directory name fixed pure.isName
  have moved : ∀ old : Place, entryPlace directory name <+:
      old.whenMoved place (entryPlace directory name) ∨
        old.whenMoved place (entryPlace directory name) = old := by
    intro old
    by_cases inside : place <+: old
    · obtain ⟨rest, rfl⟩ := inside
      rw [whenMoved_append]
      exact Or.inl (List.prefix_append _ _)
    · exact Or.inr (whenMoved_of_outside inside)
  rcases pure.fresh other entry found with ⟨old, rfl, before⟩ |
    ⟨isDirectory, path, mem, front, short, rfl⟩ | ⟨record, same⟩
  · rw [slot]
    exact (moved old).imp_right fun stays => Or.inl (by rw [stays, before])
  · rw [slot]
    exact (moved _).imp_right fun stays =>
      Or.inr (Or.inl ⟨isDirectory, path, mem, front, short, stays⟩)
  · exact Or.inr (Or.inr (Or.inr ⟨(isRecordPlace_iff fixed pure.isName).mp record, same⟩))

/-- A pure move into the trash adds one pair. -/
theorem Fills.of_isPureMove (fixed : IsFixed directory) (wellformed : later.Wellformed)
    (pure : IsPureMove host files source ⟨.paired, directory⟩ place name later)
    (there : files.get? place ≠ none) (outside : ¬trashPlace directory <+: place) :
    Fills directory files later [(name, source.toText)] where
  wellformed := wellformed
  way := by
    rintro front short ⟨text, found⟩
    rcases pure.cases fixed found with below | old | ⟨isDirectory, -⟩ | ⟨-, same⟩
    · have inTrash := (entryPlace_below directory name).trans below
      rw [fixed.outside front short inTrash] at below
      have long := below.length_le
      rw [length_entryPlace] at long
      omega
    · exact ⟨text, old⟩
    · exact absurd isDirectory (by simp [Entry.isDirectory])
    · cases same
  kept := by
    intro other entry below found
    have stays : ¬place <+: other := by
      intro above
      rcases List.prefix_or_prefix_of_prefix above below with up | down
      · exact pure.apart (placeOf_slot fixed pure.isName ▸ up.trans (entryPlace_below _ _))
      · exact outside down
    have same := pure.kept other entry found
    rwa [whenMoved_of_outside stays] at same
  fresh := by
    intro other entry below found
    rcases pure.cases fixed found with moved | old | ⟨isDirectory, path, mem, front, short, rfl⟩ |
      ⟨rfl, -⟩
    · exact Or.inr (Or.inr ⟨_, List.mem_singleton_self _, Or.inl moved⟩)
    · exact Or.inl old
    · exact Or.inr (Or.inl ⟨isDirectory, fixed.length_le_of_way mem short below⟩)
    · exact Or.inr (Or.inr ⟨_, List.mem_singleton_self _, Or.inr rfl⟩)
  added := by
    intro pair mem
    obtain rfl := List.mem_singleton.mp mem
    have slot := @placeOf_slot files directory name fixed pure.isName
    obtain ⟨entry, found⟩ := Option.ne_none_iff_exists'.mp there
    have moved := pure.kept place entry found
    have here : place.whenMoved place (entryPlace directory name) = entryPlace directory name := by
      simpa using @whenMoved_append place (entryPlace directory name) []
    rw [slot, here] at moved
    exact ⟨slot ▸ pure.free, Option.ne_none_iff_exists'.mpr ⟨entry, moved⟩, infoMode, _,
      pure.recorded _ ((isRecordPlace_iff fixed pure.isName).mpr rfl), TrashInfo.path?_encode _⟩
  distinct := List.nodup_singleton name

/-! ## Moves that fail -/

/-- An entry of a trash that can be walked to is found by its path. -/
theorem IsOrderly.isTaken_of_entry (orderly : IsOrderly directory files) (proper : directory.Proper)
    (isName : IsName name)
    (walks : Walks files (files.base directory.root) directory.parts 0 (trashPlace directory))
    (short : (Utf8.encode (PathName.toText ⟨directory.root,
      directory.parts ++ [entriesName] ++ [name]⟩)).length < pathLimit)
    (shortName : (Utf8.encode name).length ≤ nameLimit)
    (entry : files.get? (entryPlace directory name) ≠ none) :
    files.isTaken (PathName.toText ⟨directory.root,
      directory.parts ++ [entriesName] ++ [name]⟩) = true := by
  have entries := orderly.wellformed.parent _ _ entry
  have trash := orderly.wellformed.parent _ _ entries.present
  have admitsEntries : Admits .kept (trashPlace directory) entriesName [] :=
    ⟨by decide, by decide, by decide, by simp, orderly.wellformed.isRemoved_eq_false trash,
      by decide⟩
  have admits : Admits .kept (trashPlace directory ++ [entriesName]) name [] :=
    ⟨isName.nonempty, isName.ne_itself, isName.ne_above, by simp,
      orderly.wellformed.isRemoved_eq_false entries, shortName⟩
  obtain ⟨mode, found⟩ := entries
  have walksEntries := walks.append (.enter admitsEntries found .done)
  have named : PathName.IsNamed ⟨directory.root, directory.parts ++ [entriesName] ++ [name]⟩ := by
    have properEntries : (entriesPath directory).Proper := proper.below _
    rw [entriesPath_eq] at properEntries
    exact PathName.isNamed_append properEntries isName
  exact (isTaken_iff named).mpr
    ⟨_, name, ⟨short, ⟨_, rfl, _, Nat.zero_le _, walksEntries⟩, admits⟩, entry⟩

/-- Where a record is found, so is its entry. -/
theorem IsOrderly.isTaken_slot (orderly : IsOrderly directory files) (fixed : IsFixed directory)
    (proper : directory.Proper) (isName : IsName name)
    (taken : files.isTaken (recordPath directory name).toText = true) :
    files.isTaken (PathName.toText ⟨directory.root,
      directory.parts ++ [entriesName] ++ [name]⟩) = true := by
  obtain ⟨above, last, reaches, there⟩ :=
    (isTaken_iff (isNamed_recordPath proper isName.noSlash)).mp taken
  have unlinked := orderly.unlinked_directories fixed (recordsPath directory)
    (by simp [Trash.directories])
  rw [reaches.eq_placeOf (parent_recordPath directory isName.noSlash ▸ unlinked),
    placeOf_recordPath files directory isName.noSlash, placeOf_of_rooted fixed] at there
  obtain ⟨other, same, entry⟩ := orderly.paired.matched _ there
  obtain rfl : name = other := List.append_cancel_right same
  have shorter := length_entry_lt_length_record directory isName.noSlash
  have long : (Utf8.encode (name ++ TrashInfo.suffix)).length ≤ nameLimit := by
    have few := reaches.admits.short
    rwa [reaches.name_eq, recordPath_eq directory isName.noSlash, PathName.name_mk_append] at few
  rw [Utf8.encode_append, List.length_append] at long
  have walks := (recordPath_eq directory isName.noSlash ▸ reaches).walks_front orderly.unlinked
  rw [placeOf_of_rooted fixed] at walks
  exact orderly.isTaken_of_entry proper isName walks (shorter.trans reaches.short)
    (Nat.le_of_add_right_le long) entry

/-- Nothing is where a record would be written, if all records of the trash have entries. -/
theorem IsOrderly.recordIsTaken_eq_false (orderly : IsOrderly directory files)
    (fixed : IsFixed directory) {path : Text}
    (found : Trash.find host.environment host.platform = .ok ⟨.paired, directory⟩)
    (named : ∀ source, files.absolute path = .ok source → source.parts ≠ []) :
    recordIsTaken host path files = false := by
  have proper : directory.Proper := proper_of_find found
  unfold recordIsTaken
  rw [found]
  cases located : locate path files with
  | error error later => rfl
  | ok source later =>
      obtain ⟨rfl, absolute, -⟩ := locate_eq_ok.mp located
      dsimp only
      cases ready : preparePaired directory later with
      | error error made => rfl
      | ok _ made =>
          have grows := grows_preparePaired proper later
          rw [ready, after] at grows
          dsimp only
          have orderlyMade := (Fills.of_grows fixed orderly grows).isOrderly fixed orderly
          have properEntries : (entriesPath directory).Proper := proper.below _
          have named := isNamed_of_absolute orderly.wellformed absolute (named source absolute)
          obtain ⟨name, isName, slot, untaken⟩ := exists_freePathIn properEntries named.named made
          rw [slot] at untaken
          rw [slot, PathName.name_mk_append]
          by_contra taken
          have entryTaken :=
            orderlyMade.isTaken_slot fixed proper isName (Bool.of_not_eq_false taken)
          rw [entriesPath_eq] at untaken
          exact absurd (entryTaken.symm.trans untaken) (by decide)

/-! ## History -/

/-- A move that a run may make: into the given trash, of an entry that has a name and is not in the
trash. -/
structure IsEligible (directory : PathName) (host : Host) (path : Text) (files : FileSystem) :
    Prop where
  found : Trash.find host.environment host.platform = .ok ⟨.paired, directory⟩
  named : ∀ source, files.absolute path = .ok source → source.parts ≠ []
  outside : ∀ source place entry, files.absolute path = .ok source →
    files.lstat source.toText = .ok (place, entry) → ¬trashPlace directory <+: place

/-- Moves into one trash, one after another, with changes elsewhere in between.  Each move that
succeeds adds the name that it chose and the absolute path that it was given. -/
inductive History (directory : PathName) (files : FileSystem) :
    List (Text × Text) → FileSystem → Prop
  | start : History directory files [] files
  | change {pairs : List (Text × Text)} {middle later : FileSystem}
      (run : History directory files pairs middle) (leaves : LeavesTrash directory middle later)
      (wellformed : later.Wellformed) : History directory files pairs later
  | success {pairs : List (Text × Text)} {middle later : FileSystem} {host : Host} {path : Text}
      {source destination : PathName} (run : History directory files pairs middle)
      (eligible : IsEligible directory host path middle)
      (absolute : middle.absolute path = .ok source)
      (moved : moveToTrash host path middle = .ok destination later) :
      History directory files (pairs ++ [(destination.name, source.toText)]) later
  | failure {pairs : List (Text × Text)} {middle later : FileSystem} {host : Host} {path : Text}
      {error : TrashError} (run : History directory files pairs middle)
      (eligible : IsEligible directory host path middle)
      (refused : moveToTrash host path middle = .error error later) :
      History directory files pairs later

/-- A move that fails adds no pair. -/
theorem Fills.of_error {path : Text} {error : TrashError} (fixed : IsFixed directory)
    (orderly : IsOrderly directory files) (eligible : IsEligible directory host path files)
    (refused : moveToTrash host path files = .error error later) :
    Fills directory files later [] :=
  .of_grows fixed orderly (grows_of_moveToTrash_error refused eligible.found
    (orderly.recordIsTaken_eq_false fixed eligible.found eligible.named))

/-- A move that succeeds adds one pair. -/
theorem Fills.of_ok {path : Text} (fixed : IsFixed directory) (orderly : IsOrderly directory files)
    (eligible : IsEligible directory host path files) (absolute : files.absolute path = .ok source)
    (moved : moveToTrash host path files = .ok destination later) :
    Fills directory files later [(destination.name, source.toText)] := by
  obtain ⟨other, trash, made, noted, place, above, name, absolute', rfl, delivery⟩ :=
    exists_delivery orderly.wellformed moved
  obtain rfl : source = other := Except.ok.inj (absolute.symm.trans absolute')
  obtain rfl : ⟨.paired, directory⟩ = trash :=
    Except.ok.inj (eligible.found.symm.trans delivery.found)
  obtain ⟨entry, there⟩ := delivery.located
  have outside := eligible.outside source place entry absolute there
  have unlinked := orderly.unlinked_directories fixed
  have slot := delivery.slot_eq unlinked
  rw [placeOf_slot fixed delivery.isName] at slot
  have clear : IsClear files ⟨.paired, directory⟩ place name := by
    refine ⟨unlinked, ?_, fun other record => ?_⟩
    · exact (placeOf_of_rooted fixed files directory.parts).symm ▸ outside
    rw [isRecordPlace_iff fixed delivery.isName] at record
    subst record
    by_contra note
    obtain ⟨last, same, entry⟩ := orderly.paired.matched _ note
    obtain rfl : name = last := List.append_cancel_right same
    exact delivery.grows.present entry (slot ▸ delivery.free)
  rw [show (Trash.slot ⟨.paired, directory⟩ name).name = name by simp [Trash.slot]]
  exact .of_isPureMove fixed (delivery.wellformed clear orderly.wellformed)
    (delivery.isPureMove clear orderly.wellformed (parts_of_absolute orderly.wellformed absolute).1)
    delivery.present outside

/-- Over a whole run the trash is filled with the pairs of the moves that succeeded. -/
theorem History.fills (run : History directory files pairs later) (fixed : IsFixed directory)
    (orderly : IsOrderly directory files) : Fills directory files later pairs := by
  induction run with
  | start => exact .refl orderly.wellformed
  | change _ leaves wellformed ih =>
      simpa using ih.trans (.of_leavesTrash leaves wellformed)
  | success _ eligible absolute moved ih =>
      exact ih.trans (.of_ok fixed (ih.isOrderly fixed orderly) eligible absolute moved)
  | failure _ eligible refused ih =>
      simpa using ih.trans (.of_error fixed (ih.isOrderly fixed orderly) eligible refused)

/-- Over a whole run the trash stays one of pairs: those that were there before, and one for each
move that succeeded, under a name of its own and with a record that tells where it came from. -/
theorem isPaired_of_history (fixed : IsFixed directory) (wellformed : files.Wellformed)
    (unlinked : files.IsUnlinked directory) (paired : IsPaired directory files)
    (run : History directory files pairs later) :
    IsPaired directory later ∧ (pairs.map Prod.fst).Nodup ∧
      (∀ pair ∈ pairs, files.get? (entryPlace directory pair.1) = none ∧
        ∃ mode content, later.get? (notePlace directory pair.1) = some (.file mode content) ∧
          TrashInfo.path? content = some pair.2) ∧
      (∀ name, later.get? (entryPlace directory name) ≠ none ↔
        files.get? (entryPlace directory name) ≠ none ∨ name ∈ pairs.map Prod.fst) ∧
      ∀ place entry, trashPlace directory <+: place → files.get? place = some entry →
        later.get? place = some entry := by
  have orderly : IsOrderly directory files := ⟨wellformed, unlinked, paired⟩
  have fills := run.fills fixed orderly
  refine ⟨(fills.isOrderly fixed orderly).paired, fills.distinct, fun pair mem => ?_,
    fun name => ?_, fills.kept⟩
  · obtain ⟨free, -, note⟩ := fills.added pair mem
    exact ⟨free, note⟩
  · constructor
    · intro there
      exact (fills.entry_cases there).imp_right fun ⟨pair, inPairs, same⟩ =>
        List.mem_map.mpr ⟨pair, inPairs, same⟩
    · rintro (old | mem)
      · exact fills.present (entryPlace_below _ _) old
      · obtain ⟨pair, inPairs, rfl⟩ := List.mem_map.mp mem
        exact (fills.added pair inPairs).2.1

/-! ## A run that keeps pairs, and the root -/

/-- The trash of the machine with records. -/
def recordTrash : PathName :=
  ⟨.slash, ["d", "Trash"]⟩

theorem trashPlace_recordTrash : trashPlace recordTrash = ["d", "Trash"] :=
  rfl

theorem isFixed_recordTrash : IsFixed recordTrash where
  rooted := by decide
  outside := by
    have all : ∀ front ∈ recordTrash.parts.inits, trashPlace recordTrash <+: normal [] front →
        normal [] front = trashPlace recordTrash := by decide
    exact fun front short => all front ((List.mem_inits _ _).mpr short)

theorem isEligible_treeFiles : IsEligible recordTrash recordHost "/a" treeFiles where
  found := rfl
  named := by
    rintro source absolute
    cases absolute
    decide
  outside := by
    rintro source place entry absolute there
    cases absolute
    cases there
    decide

theorem isPaired_takenFiles : History recordTrash treeFiles [("a", "/a")] takenFiles ∧
    IsPaired recordTrash takenFiles := by
  have wellformed : treeFiles.Wellformed := wellformed_of_entries (by decide) (by decide)
  have moved : moveToTrash recordHost "/a" treeFiles =
      .ok ⟨.slash, ["d", "Trash", "files", "a"]⟩ takenFiles := rfl
  have run : History recordTrash treeFiles [("a", "/a")] takenFiles :=
    .success .start isEligible_treeFiles rfl moved
  exact ⟨run, (isPaired_of_history isFixed_recordTrash wellformed (by decide)
    (isPaired_of_absent wellformed rfl) run).1⟩

/-- Files with a pair in the trash, the name of which is that of its directory with a number. -/
def pairFiles : FileSystem where
  entries := [(["d"], .directory 0o755), (["d", "Trash"], .directory 0o755),
    (["d", "Trash", "files"], .directory 0o700), (["d", "Trash", "info"], .directory 0o700),
    (["d", "Trash", "files", "files 1"], .file 0o644 [0x61]),
    (["d", "Trash", "info", "files 1.trashinfo"], TrashInfo.entry ⟨"/files 1", recordHost.time⟩)]
  workingDirectory := []

/-- The same files without the record. -/
def halfFiles : FileSystem where
  entries := [(["d"], .directory 0o755), (["d", "Trash"], .directory 0o755),
    (["d", "Trash", "files"], .directory 0o700), (["d", "Trash", "info"], .directory 0o700),
    (["d", "Trash", "files", "files 1"], .file 0o644 [0x61])]
  workingDirectory := []

theorem isPaired_pairFiles : IsPaired recordTrash pairFiles where
  entries := fun entry found => by
    cases found
    rfl
  records := fun entry found => by
    cases found
    rfl
  noted := by
    intro name there
    have listed := mem_places_of_get? (by simp [entryPlace]) there
    obtain rfl : name = "files 1" := by
      simpa [entryPlace, trashPlace_recordTrash, pairFiles, entriesName] using listed
    exact ⟨_, _, rfl⟩
  matched := by
    intro last there
    have listed := mem_places_of_get? (by simp) there
    obtain rfl : last = "files 1.trashinfo" := by
      simpa [trashPlace_recordTrash, pairFiles, recordsName] using listed
    exact ⟨"files 1", rfl, by decide⟩

/-- The root has no name: the move of it takes another directory for the trash, fails, and takes
away the record of an entry that is there. -/
theorem not_isPaired_halfFiles :
    IsPaired recordTrash pairFiles ∧
      moveToTrash recordHost "/" pairFiles =
        .error (.move (.intoItself "/" "/d/Trash/files 1")) halfFiles ∧
      ¬IsPaired recordTrash halfFiles := by
  refine ⟨isPaired_pairFiles, rfl, fun paired => ?_⟩
  obtain ⟨mode, content, note⟩ := paired.noted "files 1" (by decide)
  cases note

end SafeDelete
