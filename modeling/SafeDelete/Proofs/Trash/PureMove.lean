/-
Module: SafeDelete.Proofs.Trash.PureMove
Purpose: A move to a trash that is clear of links takes one tree along and leaves the rest alone.
Main exports: IsClear, IsPureMove, isPureMove_of_moveToTrash
-/
import SafeDelete.Proofs.Trash.Delivery
import SafeDelete.Proofs.Trash.Failure

namespace SafeDelete

open Effect FileSystem

variable {files made noted later : FileSystem} {host : Host} {source destination : PathName}
  {trash : Trash} {name : Text} {place other : Place} {entry : Entry} {path : PathName}

/-! ## Ways without links -/

namespace FileSystem

theorem Grows.hasLink {paths : List PathName} (grows : Grows files later paths)
    (link : later.HasLink place) : files.HasLink place := by
  obtain ⟨text, found⟩ := link
  cases old : files.get? place with
  | none => exact absurd (grows.fresh place _ old found).1 (by simp [Entry.isDirectory])
  | some entry =>
      have same := (grows.kept place entry old).symm.trans found
      exact ⟨text, old.trans same⟩

theorem placeOf_eq (stands : later.workingDirectory = files.workingDirectory) (path : PathName) :
    later.placeOf path = files.placeOf path := by
  rw [placeOf, placeOf, base, base, stands]

theorem Grows.isUnlinked {paths : List PathName} (grows : Grows files later paths)
    (unlinked : files.IsUnlinked path) : later.IsUnlinked path := by
  intro front short link
  rw [placeOf_eq grows.stands] at link
  exact unlinked front short (grows.hasLink link)

/-- What is new on the way to paths without links is where their text says. -/
theorem Grows.fresh_placeOf {paths : List PathName} (grows : Grows files later paths)
    (unlinked : ∀ path ∈ paths, files.IsUnlinked path) (free : files.get? other = none)
    (found : later.get? other = some entry) :
    entry.isDirectory = true ∧ ∃ path ∈ paths, ∃ front, front <+: path.parts ∧
      other = files.placeOf ⟨path.root, front⟩ := by
  obtain ⟨isDirectory, path, mem, front, directory, name, short, reaches, rfl⟩ :=
    grows.fresh other entry free found
  refine ⟨isDirectory, path, mem, front, short, ?_⟩
  rw [reaches.eq_placeOf, placeOf_eq grows.stands]
  exact fun first shorter => grows.isUnlinked (unlinked path mem) first
    (shorter.trans ((List.dropLast_prefix front).trans short))

end FileSystem

/-! ## Where the record is -/

/-- The place of the record about an entry with the given name, in a trash with records. -/
def IsRecordPlace (files : FileSystem) (trash : Trash) (name : Text) (other : Place) : Prop :=
  ∃ directory, trash = ⟨.paired, directory⟩ ∧ other = files.placeOf (recordPath directory name)

/-- The trash is out of the way of a move from the place to the name: no links lead to its
directories, the place is not in it, and no record about the name is there. -/
structure IsClear (files : FileSystem) (trash : Trash) (place : Place) (name : Text) : Prop where
  unlinked : ∀ path ∈ trash.directories, files.IsUnlinked path
  outside : ¬files.placeOf trash.directory <+: place
  unnoted : ∀ other, IsRecordPlace files trash name other → files.get? other = none

theorem Trash.entries_mem_directories (trash : Trash) : trash.entries ∈ trash.directories := by
  obtain ⟨layout, directory⟩ := trash
  cases layout <;> exact List.mem_cons_self

theorem placeOf_directory_above (files : FileSystem) (trash : Trash) :
    files.placeOf trash.directory <+: files.placeOf trash.entries := by
  obtain ⟨layout, directory⟩ := trash
  cases layout with
  | home => exact List.prefix_rfl
  | paired =>
      rw [Trash.entries, entriesPath_eq, placeOf_append isName_entriesName]
      exact List.prefix_append _ _

theorem placeOf_recordPath (files : FileSystem) (directory : PathName) {name : Text}
    (noSlash : '/' ∉ name) :
    files.placeOf (recordPath directory name) =
      files.placeOf directory ++ [recordsName] ++ [name ++ TrashInfo.suffix] := by
  rw [recordPath_eq directory noSlash, placeOf_append (isName_recordName noSlash),
    placeOf_append isName_recordsName]

/-- A record is not among the entries. -/
theorem slot_ne_recordPlace (isName : IsName name) (record : IsRecordPlace files trash name other) :
    files.placeOf (trash.slot name) ≠ other := by
  obtain ⟨directory, rfl, rfl⟩ := record
  rw [Trash.slot, placeOf_append isName, Trash.entries, entriesPath_eq,
    placeOf_append isName_entriesName, placeOf_recordPath files directory isName.noSlash]
  intro same
  have parts := (List.append_inj' same rfl).1
  exact absurd (List.append_inj' parts rfl).2 (by decide)

namespace Delivery

variable {directory : Place}
  (delivery : Delivery host files source trash made noted place directory name later)

include delivery

theorem slot_eq (unlinked : ∀ path ∈ trash.directories, files.IsUnlinked path) :
    directory ++ [name] = files.placeOf (trash.slot name) := by
  have unlinked := unlinked _ trash.entries_mem_directories
  rw [delivery.reaches.eq_placeOf, placeOf_eq delivery.grows.stands]
  rw [PathName.parent, Trash.slot, List.dropLast_concat]
  exact delivery.grows.isUnlinked unlinked

variable (clear : IsClear files trash place name)

include clear

/-- The record is written where its path says, and nothing is there. -/
theorem record_eq {root : PathName} {record : Place} (paired : trash = ⟨.paired, root⟩)
    (writes : made.Writes (recordPath root name).toText record) :
    record = files.placeOf (recordPath root name) ∧ made.get? record = none := by
  subst paired
  have unnoted := clear.unnoted _ ⟨root, rfl, rfl⟩
  have unlinked : made.IsUnlinked (recordPath root name).parent := by
    rw [parent_recordPath root delivery.isName.noSlash]
    exact delivery.grows.isUnlinked (clear.unlinked _ (by simp [Trash.directories]))
  have placed : ∀ {above : Place} {last : Text}, made.Reaches (recordPath root name) above last →
      above ++ [last] = files.placeOf (recordPath root name) := fun reaches => by
    rw [reaches.eq_placeOf unlinked, placeOf_eq delivery.grows.stands]
  have named := isNamed_recordPath (proper_of_find delivery.found) delivery.isName.noSlash
  obtain ⟨above, reaches, rfl⟩ := writes.exists_reaches named fun above reaches text found => by
    rw [placed reaches] at found
    obtain ⟨text, link⟩ := delivery.grows.hasLink ⟨text, found⟩
    exact absurd (unnoted.symm.trans link) (by simp)
  refine ⟨placed reaches, ?_⟩
  -- Only directories are new, and the record is written where none is.
  by_contra present
  obtain ⟨old, found⟩ := Option.ne_none_iff_exists'.mp present
  obtain ⟨_, _, rfl⟩ := writes.plain found
  exact absurd (delivery.grows.fresh _ _ (placed reaches ▸ unnoted) found).1
    (by simp [Entry.isDirectory])

/-- Behind the notes there is one record more, at a place of its own. -/
theorem noted_get? :
    noted.get? other = some entry ↔
      (IsRecordPlace files trash name other ∧ entry = TrashInfo.entry ⟨source.toText, host.time⟩) ∨
        made.get? other = some entry := by
  have notes := delivery.notes
  cases notes with
  | nothing =>
      constructor
      · exact Or.inr
      · rintro (⟨⟨_, same, -⟩, -⟩ | found)
        · cases same
        · exact found
  | @record root _ record writes =>
      obtain ⟨rfl, fresh⟩ := delivery.record_eq clear rfl writes
      rw [writes.get?_insert]
      by_cases here : other = files.placeOf (recordPath root name)
      · subst here
        rw [if_pos rfl, fresh]
        constructor
        · intro same
          exact Or.inl ⟨⟨root, rfl, rfl⟩, (Option.some.inj same).symm⟩
        · rintro (⟨-, rfl⟩ | absent)
          · rfl
          · cases absent
      · rw [if_neg here]
        constructor
        · exact Or.inr
        · rintro (⟨⟨_, same, rfl⟩, -⟩ | found)
          · cases same
            exact absurd rfl here
          · exact found

theorem eq_relocate :
    noted.get? (files.placeOf (trash.slot name)) = none ∧ ¬place <+: directory ∧
      later = noted.relocate place (files.placeOf (trash.slot name)) := by
  have slot := delivery.slot_eq clear.unlinked
  have there := delivery.notes.present (delivery.grows.present (delivery.present))
  have free : noted.get? (files.placeOf (trash.slot name)) = none := by
    by_contra present
    obtain ⟨entry, found⟩ := Option.ne_none_iff_exists'.mp present
    rcases (delivery.noted_get? clear).mp found with ⟨record, -⟩ | old
    · exact slot_ne_recordPlace delivery.isName record rfl
    · exact absurd (old.symm.trans (slot ▸ delivery.free)) (by simp)
  have apart : directory ≠ place := by
    rintro rfl
    rw [Trash.slot, placeOf_append delivery.isName] at slot
    exact clear.outside ((List.append_inj' slot rfl).1 ▸ placeOf_directory_above files trash)
  obtain ⟨outside, eq⟩ := delivery.moved.eq_relocate there (slot ▸ free) apart
  exact ⟨free, outside, slot ▸ eq⟩

theorem wellformed (wellformed : files.Wellformed) : later.Wellformed := by
  obtain ⟨free, outside, rfl⟩ := delivery.eq_relocate clear
  have wellformedMade := delivery.grows.wellformed wellformed
  have there := delivery.notes.present (delivery.grows.present delivery.present)
  have here := delivery.notes.continues.directory _ (delivery.reaches.hasDirectory wellformedMade)
  rw [← delivery.slot_eq clear.unlinked] at free ⊢
  exact (delivery.notes.wellformed wellformedMade).relocate delivery.proper there free here
    delivery.isName outside

variable (wellformed : files.Wellformed)

include wellformed

theorem apart : ¬place <+: files.placeOf (trash.slot name) ∧
    ¬files.placeOf (trash.slot name) <+: place := by
  obtain ⟨free, outside, -⟩ := delivery.eq_relocate clear
  have wellformedNoted := delivery.notes.wellformed (delivery.grows.wellformed wellformed)
  have there := delivery.notes.present (delivery.grows.present delivery.present)
  rw [← delivery.slot_eq clear.unlinked] at free ⊢
  exact wellformedNoted.apart there free outside

/-- What is there behind the move was noted, and is where the move takes it. -/
theorem later_get? :
    later.get? other = some entry ↔
      ∃ old, other = old.whenMoved place (files.placeOf (trash.slot name)) ∧
        noted.get? old = some entry := by
  obtain ⟨apart, apart'⟩ := delivery.apart clear wellformed
  obtain ⟨free, -, rfl⟩ := delivery.eq_relocate clear
  have wellformedNoted := delivery.notes.wellformed (delivery.grows.wellformed wellformed)
  exact get?_relocate_eq_some_iff delivery.proper apart apart' fun _ =>
    wellformedNoted.absent_of_above free

theorem gone (below : place <+: other) : later.get? other = none := by
  obtain ⟨apart, apart'⟩ := delivery.apart clear wellformed
  obtain ⟨-, -, rfl⟩ := delivery.eq_relocate clear
  rw [get?_relocate noted delivery.proper apart apart', if_neg, if_pos below]
  intro inSlot
  rcases List.prefix_or_prefix_of_prefix below inSlot with up | down
  · exact apart up
  · exact apart' down

theorem kept (found : files.get? other = some entry) :
    later.get? (other.whenMoved place (files.placeOf (trash.slot name))) = some entry :=
  (delivery.later_get? clear wellformed).mpr
    ⟨other, rfl, (delivery.noted_get? clear).mpr (Or.inr (delivery.grows.kept other entry found))⟩

/-- Nothing is left at the path of the entry: where the walk to it goes, both trees have the same
directories. -/
theorem vacant (rooted : source.root ≠ .relative) : later.isTaken source.toText = false := by
  by_contra taken
  obtain ⟨entry, found⟩ := delivery.located
  obtain ⟨above, last, reaches, rfl, -⟩ := (lstat_eq_ok_iff delivery.named).mp found
  obtain ⟨above', last', reaches', present⟩ :=
    (isTaken_iff delivery.named).mp (Bool.of_not_eq_false taken)
  obtain ⟨front, eq, _, _, walks⟩ := reaches.walks
  obtain ⟨front', eq', _, _, walks'⟩ := reaches'.walks
  obtain ⟨rfl, same⟩ := List.append_inj' (eq.symm.trans eq') rfl
  obtain rfl : last = last' := by simpa using same
  rw [base, if_neg rooted] at walks walks'
  obtain ⟨-, rfl⟩ := walks.agree walks' fun other first second old new => by
    have stays : ¬above ++ [last] <+: other := fun below =>
      absurd ((delivery.gone clear wellformed below).symm.trans new) (by simp)
    have same := delivery.kept clear wellformed old
    rw [whenMoved_of_outside stays] at same
    exact Option.some.inj (same.symm.trans new)
  exact present (delivery.gone clear wellformed List.prefix_rfl)

end Delivery

/-! ## The whole move -/

/-- The tree at the place is in the trash under the name, and everything else is as it was: what is
new besides are directories of the trash and, in a trash with records, the record. -/
structure IsPureMove (host : Host) (files : FileSystem) (source : PathName) (trash : Trash)
    (place : Place) (name : Text) (later : FileSystem) : Prop where
  isName : IsName name
  free : files.get? (files.placeOf (trash.slot name)) = none
  apart : ¬place <+: files.placeOf (trash.slot name)
  gone : ∀ other, place <+: other → later.get? other = none
  vacant : later.isTaken source.toText = false
  kept : ∀ other entry, files.get? other = some entry →
    later.get? (other.whenMoved place (files.placeOf (trash.slot name))) = some entry
  recorded : ∀ other, IsRecordPlace files trash name other →
    later.get? other = some (TrashInfo.entry ⟨source.toText, host.time⟩)
  fresh : ∀ other entry, later.get? other = some entry →
    (∃ old, other = old.whenMoved place (files.placeOf (trash.slot name)) ∧
      files.get? old = some entry) ∨
    (entry.isDirectory = true ∧ ∃ path ∈ trash.directories, ∃ front, front <+: path.parts ∧
      other = (files.placeOf ⟨path.root, front⟩).whenMoved place
        (files.placeOf (trash.slot name))) ∨
    IsRecordPlace files trash name other ∧ entry = TrashInfo.entry ⟨source.toText, host.time⟩

/-- A record is out of the way of a move that ends in the same trash. -/
theorem IsClear.not_above_record (clear : IsClear files trash place name) (isName : IsName name)
    (apart : ¬place <+: files.placeOf (trash.slot name))
    (record : IsRecordPlace files trash name other) : ¬place <+: other := by
  intro above
  have inTrash : files.placeOf trash.directory <+: other := by
    obtain ⟨directory, rfl, rfl⟩ := record
    rw [placeOf_recordPath files directory isName.noSlash, List.append_assoc]
    exact List.prefix_append _ _
  rcases List.prefix_or_prefix_of_prefix above inTrash with below | inside
  · refine apart (below.trans ((placeOf_directory_above files trash).trans ?_))
    rw [Trash.slot, placeOf_append isName]
    exact List.prefix_append _ _
  · exact clear.outside inside

theorem Delivery.isPureMove {directory : Place}
    (delivery : Delivery host files source trash made noted place directory name later)
    (clear : IsClear files trash place name) (wellformed : files.Wellformed)
    (rooted : source.root ≠ .relative) : IsPureMove host files source trash place name later where
  isName := delivery.isName
  free := by
    by_contra present
    obtain ⟨entry, found⟩ := Option.ne_none_iff_exists'.mp present
    have slot := delivery.slot_eq clear.unlinked
    exact absurd ((delivery.grows.kept _ entry found).symm.trans (slot ▸ delivery.free)) (by simp)
  apart := (delivery.apart clear wellformed).1
  gone := fun _ => delivery.gone clear wellformed
  vacant := delivery.vacant clear wellformed rooted
  kept := fun _ _ => delivery.kept clear wellformed
  recorded := by
    intro other record
    have stays := clear.not_above_record delivery.isName (delivery.apart clear wellformed).1 record
    exact (delivery.later_get? clear wellformed).mpr
      ⟨other, (whenMoved_of_outside stays).symm,
        (delivery.noted_get? clear).mpr (Or.inl ⟨record, rfl⟩)⟩
  fresh := by
    intro other entry found
    obtain ⟨old, rfl, before⟩ := (delivery.later_get? clear wellformed).mp found
    rcases (delivery.noted_get? clear).mp before with ⟨record, rfl⟩ | made
    · have apart := (delivery.apart clear wellformed).1
      have stays := clear.not_above_record delivery.isName apart record
      rw [whenMoved_of_outside stays]
      exact Or.inr (Or.inr ⟨record, rfl⟩)
    · cases there : files.get? old with
      | some kept =>
          obtain rfl := Option.some.inj ((delivery.grows.kept old kept there).symm.trans made)
          exact Or.inl ⟨old, rfl, there⟩
      | none =>
          obtain ⟨isDirectory, path, mem, front, short, rfl⟩ :=
            delivery.grows.fresh_placeOf clear.unlinked there made
          exact Or.inr (Or.inl ⟨isDirectory, path, mem, front, short, rfl⟩)

/-- A move to the trash of an entry that is not in it is a pure move. -/
theorem isPureMove_of_moveToTrash {path : Text} (wellformed : files.Wellformed)
    (absolute : files.absolute path = .ok source)
    (there : files.lstat source.toText = .ok (place, entry))
    (found : Trash.find host.environment host.platform = .ok trash)
    (clear : IsClear files trash place destination.name)
    (moved : moveToTrash host path files = .ok destination later) :
    destination = trash.slot destination.name ∧
      IsPureMove host files source trash place destination.name later := by
  obtain ⟨other, trash', made, noted, place', directory, name, absolute', rfl, delivery⟩ :=
    exists_delivery wellformed moved
  obtain rfl : source = other := Except.ok.inj (absolute.symm.trans absolute')
  obtain rfl : trash = trash' := Except.ok.inj (found.symm.trans delivery.found)
  obtain ⟨entry', there'⟩ := delivery.located
  obtain ⟨rfl, -⟩ : place = place' ∧ entry = entry' := by
    simpa using Except.ok.inj (there.symm.trans there')
  have named : (trash.slot name).name = name := by simp [Trash.slot]
  rw [named] at clear ⊢
  exact ⟨rfl, delivery.isPureMove clear wellformed (parts_of_absolute wellformed absolute).1⟩

/-- Files with a directory of a file and a link, and no trash. -/
def treeFiles : FileSystem where
  entries := [(["d"], .directory 0o755), (["a"], .directory 0o750),
    (["a", "f"], .file 0o600 [0x61]), (["a", "l"], .link "f")]
  workingDirectory := []

/-- The same files with the directory in the trash. -/
def takenFiles : FileSystem where
  entries := [(["d"], .directory 0o755), (["d", "Trash", "files", "a"], .directory 0o750),
    (["d", "Trash", "files", "a", "f"], .file 0o600 [0x61]),
    (["d", "Trash", "files", "a", "l"], .link "f"), (["d", "Trash"], .directory 0o755),
    (["d", "Trash", "files"], .directory 0o700), (["d", "Trash", "info"], .directory 0o700),
    (["d", "Trash", "info", "a.trashinfo"], TrashInfo.entry ⟨"/a", recordHost.time⟩)]
  workingDirectory := []

theorem isPureMove_takenFiles :
    moveToTrash recordHost "/a" treeFiles =
        .ok ⟨.slash, ["d", "Trash", "files", "a"]⟩ takenFiles ∧
      IsPureMove recordHost treeFiles ⟨.slash, ["a"]⟩ ⟨.paired, ⟨.slash, ["d", "Trash"]⟩⟩ ["a"] "a"
        takenFiles := by
  have wellformed : treeFiles.Wellformed := wellformed_of_entries (by decide) (by decide)
  have moved : moveToTrash recordHost "/a" treeFiles =
      .ok ⟨.slash, ["d", "Trash", "files", "a"]⟩ takenFiles := rfl
  have clear : IsClear treeFiles ⟨.paired, ⟨.slash, ["d", "Trash"]⟩⟩ ["a"] "a" := by
    refine ⟨by decide, by decide, ?_⟩
    rintro other ⟨directory, same, rfl⟩
    cases same
    rfl
  exact ⟨moved, (isPureMove_of_moveToTrash wellformed rfl rfl rfl clear moved).2⟩

end SafeDelete
