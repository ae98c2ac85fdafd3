/-
Module: SafeDelete.Proofs.Trash.Delivery
Purpose: What a move to the trash did when it succeeds, stage by stage.
Main exports: Trash.slot, Notes, Delivery, exists_delivery
-/
import SafeDelete.Proofs.Files.Normal
import SafeDelete.Proofs.Trash.Record
import SafeDelete.Proofs.Trash.Relocation

namespace SafeDelete

open Effect FileSystem

/-! ## Notes about an entry -/

/-- The directory of the entries of a trash. -/
def Trash.entries : Trash → PathName
  | ⟨.home, directory⟩ => directory
  | ⟨.paired, directory⟩ => entriesPath directory

/-- Where an entry with the given name is in a trash. -/
def Trash.slot (trash : Trash) (name : Text) : PathName :=
  ⟨trash.entries.root, trash.entries.parts ++ [name]⟩

/-- What is noted in a trash before an entry gets the given name there: nothing, or one record. -/
inductive Notes (host : Host) (source : PathName) (name : Text) :
    Trash → FileSystem → FileSystem → Prop
  | nothing {directory : PathName} {files : FileSystem} :
      Notes host source name ⟨.home, directory⟩ files files
  | record {directory : PathName} {files : FileSystem} {place : Place}
      (writes : files.Writes (recordPath directory name).toText place) :
      Notes host source name ⟨.paired, directory⟩ files
        (files.insert place (TrashInfo.entry ⟨source.toText, host.time⟩))

variable {files made noted later : FileSystem} {host : Host} {source destination : PathName}
  {trash : Trash} {name : Text} {place directory : Place} {path : Text}

theorem Trash.proper_entries (found : Trash.find host.environment host.platform = .ok trash) :
    trash.entries.Proper := by
  have proper := proper_of_find found
  obtain ⟨layout, directory⟩ := trash
  cases layout with
  | home => exact proper
  | paired => exact proper.below _

namespace Notes

variable (notes : Notes host source name trash made noted)

include notes

theorem continues : Continues made noted := by
  cases notes with
  | nothing => exact (Extends.refl made).continues
  | record writes => exact writes.continues _

theorem continued : Continues noted made := by
  cases notes with
  | nothing => exact (Extends.refl made).continues
  | record writes => exact writes.continued _ _

theorem stands : noted.workingDirectory = made.workingDirectory := by
  cases notes with
  | nothing => rfl
  | record => rfl

theorem wellformed (wellformed : made.Wellformed) : noted.Wellformed := by
  cases notes with
  | nothing => exact wellformed
  | record writes => exact writes.wellformed wellformed _ _

theorem present (there : made.get? place ≠ none) : noted.get? place ≠ none := by
  cases notes with
  | nothing => exact there
  | record writes =>
      rw [writes.get?_insert]
      split
      · simp
      · exact there

end Notes

/-! ## A move that succeeds -/

/-- A move that succeeded: the directories of the trash were made, a free name was found there, the
entry was noted under it and moved. -/
structure Delivery (host : Host) (files : FileSystem) (source : PathName) (trash : Trash)
    (made noted : FileSystem) (place directory : Place) (name : Text) (later : FileSystem) :
    Prop where
  named : source.IsNamed
  found : Trash.find host.environment host.platform = .ok trash
  located : ∃ entry, files.lstat source.toText = .ok (place, entry)
  proper : place ≠ []
  grows : Grows files made trash.directories
  notes : Notes host source name trash made noted
  isName : IsName name
  reaches : made.Reaches (trash.slot name) directory name
  free : made.get? (directory ++ [name]) = none
  moved : Relocates noted place directory name later

theorem Delivery.present
    (delivery : Delivery host files source trash made noted place directory name later) :
    files.get? place ≠ none := by
  obtain ⟨entry, there⟩ := delivery.located
  obtain ⟨_, _, _, rfl, found⟩ := (lstat_eq_ok_iff delivery.named).mp there
  simp [found]

/-- The root cannot be moved. -/
theorem relocateEntry_root_ne_ok {origin target : Text} {entry : Entry}
    (found : files.lstat origin = .ok ([], entry)) :
    relocateEntry origin target files ≠ .ok () later := by
  intro done
  obtain rfl : entry = .directory 0o755 := entry_eq_of_lstat found
  simp only [relocateEntry, rename, found, moveByCopy, moveDirectoryByCopy] at done
  split at done
  · contradiction
  · contradiction
  split at done
  · contradiction
  · contradiction
  · simp at done

/-- An entry that is found stays where it is while directories and notes are added. -/
theorem lstat_of_continues (named : source.IsNamed) {entry : Entry}
    (found : files.lstat source.toText = .ok (place, entry)) (continues : Continues files later)
    (stands : later.workingDirectory = files.workingDirectory)
    (present : files.get? place ≠ none → later.get? place ≠ none) :
    ∃ entry, later.lstat source.toText = .ok (place, entry) := by
  obtain ⟨directory, name, reaches, rfl, there⟩ := (lstat_eq_ok_iff named).mp found
  obtain ⟨kept, there⟩ := Option.ne_none_iff_exists'.mp (present (by simp [there]))
  exact ⟨kept, (lstat_eq_ok_iff named).mpr
    ⟨directory, name, reaches.mono continues stands, rfl, there⟩⟩

/-- The stages of a success, before it is looked at where they lead. -/
theorem exists_stages (moved : moveToTrash host path files = .ok destination later) :
    ∃ source trash made noted, locate path files = .ok source files ∧
      Trash.find host.environment host.platform = .ok trash ∧
      Grows files made trash.directories ∧
      destination = freePathIn trash.entries source.name made ∧
      Notes host source destination.name trash made noted ∧
      relocateEntry source.toText destination.toText noted = .ok () later := by
  obtain ⟨source, trash, located, found, received⟩ := moveToTrash_eq_ok.mp moved
  have proper := proper_of_find found
  obtain ⟨layout, directory⟩ := trash
  cases layout with
  | home =>
      obtain ⟨made, ready, rfl, done⟩ := moveToHome_eq_ok.mp received
      have grows := grows_makeTrashDirectory proper files
      rw [ready] at grows
      exact ⟨source, _, made, made, located, found, grows, rfl, .nothing, done⟩
  | paired =>
      obtain ⟨made, noted, ready, rfl, note, done⟩ := moveToPaired_eq_ok.mp received
      have grows := grows_preparePaired proper files
      rw [ready] at grows
      obtain ⟨place, writes, rfl⟩ := writeInfo_eq_ok note
      exact ⟨source, _, made, _, located, found, grows, rfl, .record writes, done⟩

/-- The root is found in all files, if it is in some. -/
theorem lstat_root {entry : Entry} (rooted : source.root ≠ .relative) (root : source.parts = [])
    (found : files.lstat source.toText = .ok (place, entry)) :
    later.lstat source.toText = .ok ([], .directory 0o755) := by
  have proper : source.Proper := by
    intro part mem
    simp [root] at mem
  obtain ⟨short, -⟩ := (resolve_toText_eq_ok_iff proper).mp
    (lstat_text_eq_ok_iff.mp found)
  refine lstat_text_eq_ok_iff.mpr ((resolve_toText_eq_ok_iff proper).mpr
    ⟨short, 0, Nat.zero_le _, ?_⟩)
  rw [base, if_neg rooted, root]
  exact leads_nil_iff.mpr ⟨rfl, rfl⟩

theorem exists_delivery (wellformed : files.Wellformed)
    (moved : moveToTrash host path files = .ok destination later) :
    ∃ source trash made noted place directory name, files.absolute path = .ok source ∧
      destination = trash.slot name ∧
      Delivery host files source trash made noted place directory name later := by
  obtain ⟨source, trash, made, noted, located, found, grows, chosen, notes, done⟩ :=
    exists_stages moved
  obtain ⟨-, absolute, -, place, entry, there⟩ := locate_eq_ok.mp located
  have named : source.IsNamed := by
    refine isNamed_of_absolute wellformed absolute fun root => ?_
    obtain ⟨rooted, -⟩ := parts_of_absolute wellformed absolute
    exact relocateEntry_root_ne_ok (lstat_root rooted root there) done
  obtain ⟨name, isName, inEntries, untaken⟩ :=
    exists_freePathIn (Trash.proper_entries found) named.named made
  have slot : destination = trash.slot name := chosen.trans inEntries
  rw [← chosen] at untaken
  have namedSlot : destination.IsNamed :=
    slot ▸ PathName.isNamed_append (Trash.proper_entries found) isName
  have noted' : destination.name = name := by simp [slot, Trash.slot]
  rw [noted'] at notes
  obtain ⟨other, moving, directory, last, arrives, proper, reaches, relocates⟩ :=
    relocateEntry_eq_ok (notes.wellformed (grows.wellformed wellformed)) namedSlot done
  -- The entry and the free name are where they were before the notes.
  have reachesMade := reaches.mono notes.continued notes.stands.symm
  obtain rfl : last = name := reaches.name_eq.trans noted'
  obtain ⟨kept, stays⟩ := lstat_of_continues named there
    (grows.kept.continues.trans notes.continues) (notes.stands.trans grows.stands)
    fun present => notes.present (grows.present present)
  obtain ⟨rfl, rfl⟩ : place = other ∧ kept = moving := by
    simpa using Except.ok.inj (stays.symm.trans arrives)
  have free : made.get? (directory ++ [last]) = none := by
    by_contra present
    have taken := (isTaken_iff namedSlot).mpr ⟨directory, last, reachesMade, present⟩
    exact absurd (taken.symm.trans untaken) (by decide)
  exact ⟨source, trash, made, noted, place, directory, last, absolute, slot,
    named, found, ⟨entry, there⟩, proper, grows, notes, isName, slot ▸ reachesMade, free, relocates⟩

end SafeDelete
