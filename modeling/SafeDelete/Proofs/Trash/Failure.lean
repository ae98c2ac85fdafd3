/-
Module: SafeDelete.Proofs.Trash.Failure
Purpose: What a failed move to the trash leaves: everything as it was, and directories of the trash.
Main exports: Unharmed, recordIsTaken, unharmed_of_moveToTrash_error
-/
import SafeDelete.Proofs.Trash.Record

namespace SafeDelete

open Effect FileSystem

variable {files made later : FileSystem} {host : Host} {trash : Trash} {source directory : PathName}
  {error : TrashError} {path : Text}

/-! ## What a failure leaves -/

/-- All is as it was, but that directories may be there on the way to the trash and in it. -/
structure Unharmed (host : Host) (files later : FileSystem) : Prop where
  kept : ∀ place entry, files.get? place = some entry → later.get? place = some entry
  fresh : ∀ place entry, files.get? place = none → later.get? place = some entry →
    entry.isDirectory = true ∧
      ∃ trash path, Trash.find host.environment host.platform = .ok trash ∧
        path ∈ trash.directories ∧ later.IsOnWay path place
  stands : later.workingDirectory = files.workingDirectory

/-- Something is where the record about the entry at a path would be written, once the directories
of the trash are made. -/
def recordIsTaken (host : Host) (path : Text) (files : FileSystem) : Bool :=
  match locate path files, Trash.find host.environment host.platform with
  | .ok source _, .ok ⟨.paired, directory⟩ =>
    match preparePaired directory files with
    | .ok () made =>
      made.isTaken (recordPath directory
        (freePathIn (entriesPath directory) source.name made).name).toText
    | .error _ _ => false
  | _, _ => false

theorem Unharmed.refl (host : Host) (files : FileSystem) : Unharmed host files files where
  kept := fun _ _ found => found
  fresh := fun place entry free found => by simp [free] at found
  stands := rfl

theorem Unharmed.of_grows (found : Trash.find host.environment host.platform = .ok trash)
    (grows : Grows files later trash.directories) : Unharmed host files later where
  kept := grows.kept
  fresh := by
    intro place entry free there
    obtain ⟨isDirectory, path, mem, onWay⟩ := grows.fresh place entry free there
    exact ⟨isDirectory, trash, path, found, mem, onWay⟩
  stands := grows.stands

theorem grows_of_moveToHome_error (proper : directory.Proper)
    (refused : moveToHome source directory files = .error error later) :
    Grows files later [directory] :=
  files_of_moveToHome_error refused ▸ grows_makeTrashDirectory proper files

/-- A record that is written where nothing was is gone again behind a failed move. -/
theorem grows_of_moveToPaired_error (proper : directory.Proper)
    (refused : moveToPaired host source directory files = .error error later)
    (free : ∀ made, preparePaired directory files = .ok () made →
      made.isTaken (recordPath directory
        (freePathIn (entriesPath directory) source.name made).name).toText = false) :
    Grows files later (Trash.directories ⟨.paired, directory⟩) := by
  have prepared := grows_preparePaired proper files
  rcases stages_of_moveToPaired_error refused with notMade | ⟨made, ready, behind⟩
  · rwa [notMade] at prepared
  rw [ready, after] at prepared
  have properEntries : (entriesPath directory).Proper := proper.below _
  have named := isNamed_recordPath proper
    (PathName.slash_not_mem_name (proper_freePathIn properEntries source.name made))
  rcases behind with notNoted | ⟨noted, note, rfl⟩
  · exact files_of_writeInfo_error notNoted ▸ prepared
  · obtain ⟨place, writes, rfl⟩ := writeInfo_eq_ok note
    obtain ⟨above, name, reaches, unused, rfl⟩ := writes.reaches_of_free named (free made ready)
    have removed :=
      @removeInfo_insert made _ ⟨source.toText, host.time⟩ named above name reaches unused
    refine prepared.trans_same (.of_same (fun other => ?_) ?_)
    · rw [removed, get?_erase_insert (by simp) unused]
    · rw [removed]
      rfl

/-- A failed move adds directories of the trash, unless something was where its record is
written. -/
theorem grows_of_moveToTrash_error (refused : moveToTrash host path files = .error error later)
    (found : Trash.find host.environment host.platform = .ok trash)
    (free : recordIsTaken host path files = false) : Grows files later trash.directories := by
  rcases stages_of_moveToTrash_error refused with rfl | ⟨source, other, located, found', failed⟩
  · exact .refl later _
  obtain rfl : trash = other := Except.ok.inj (found.symm.trans found')
  have proper := proper_of_find found
  obtain ⟨layout, directory⟩ := trash
  cases layout with
  | home => exact grows_of_moveToHome_error proper failed
  | paired =>
      refine grows_of_moveToPaired_error proper failed fun made ready => ?_
      simpa [recordIsTaken, located, found, ready] using free

/-- A failed move changes nothing and adds nothing but directories of the trash, unless something
was where its record is written. -/
theorem unharmed_of_moveToTrash_error (refused : moveToTrash host path files = .error error later)
    (free : recordIsTaken host path files = false) : Unharmed host files later := by
  rcases stages_of_moveToTrash_error refused with rfl | ⟨source, trash, -, found, -⟩
  · exact .refl host later
  · exact .of_grows found (grows_of_moveToTrash_error refused found free)

/-! ## A trash that cannot take what is above it -/

/-- A machine whose trash is in the directory for data. -/
def recordHost : Host where
  environment := [(dataVariable, "/d")]
  platform := Platform.linux
  time := "2024-01-02T03:04:05"

/-- Files without a trash. -/
def bareFiles : FileSystem where
  entries := [(["d"], .directory 0o755)]
  workingDirectory := []

/-- The same files with the directories of a trash. -/
def readyFiles : FileSystem where
  entries := [(["d"], .directory 0o755), (["d", "Trash"], .directory 0o755),
    (["d", "Trash", "files"], .directory 0o700), (["d", "Trash", "info"], .directory 0o700)]
  workingDirectory := []

theorem unharmed_readyFiles :
    moveToTrash recordHost "/d" bareFiles =
        .error (.move (.intoItself "/d" "/d/Trash/files/d")) readyFiles ∧
      recordIsTaken recordHost "/d" bareFiles = false ∧
      Unharmed recordHost bareFiles readyFiles := by
  have refused : moveToTrash recordHost "/d" bareFiles =
      .error (.move (.intoItself "/d" "/d/Trash/files/d")) readyFiles := rfl
  have free : recordIsTaken recordHost "/d" bareFiles = false := by decide
  exact ⟨refused, free, unharmed_of_moveToTrash_error refused free⟩

/-- Files with a record about no entry of the trash. -/
def orphanFiles : FileSystem where
  entries := [(["d"], .directory 0o755), (["d", "Trash"], .directory 0o755),
    (["d", "Trash", "files"], .directory 0o700), (["d", "Trash", "info"], .directory 0o700),
    (["d", "Trash", "info", "d.trashinfo"], .file 0o600 [0x61])]
  workingDirectory := []

/-- The record that is there is written over, and removed when the move fails. -/
theorem not_unharmed_of_orphan :
    moveToTrash recordHost "/d" orphanFiles =
        .error (.move (.intoItself "/d" "/d/Trash/files/d")) readyFiles ∧
      ¬Unharmed recordHost orphanFiles readyFiles := by
  refine ⟨rfl, fun unharmed => ?_⟩
  have kept := unharmed.kept ["d", "Trash", "info", "d.trashinfo"] (.file 0o600 [0x61]) rfl
  cases kept

end SafeDelete
