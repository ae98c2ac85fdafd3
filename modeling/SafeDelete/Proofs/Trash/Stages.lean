/-
Module: SafeDelete.Proofs.Trash.Stages
Purpose: The stages of a move to the trash, and in which files each of them ends.
Main exports: preparePaired, noteEntry, moveToHome_eq_ok, moveToPaired_eq_ok, moveToTrash_eq_ok,
  files_of_moveToHome_error, stages_of_moveToPaired_error, stages_of_moveToTrash_error
-/
import SafeDelete.Proofs.Files.Effect
import SafeDelete.Proofs.Files.Growth
import SafeDelete.Trash.Move

namespace SafeDelete

open FileSystem

open Effect

variable {files later : FileSystem} {host : Host} {source directory destination : PathName}
  {error : TrashError} {path : Text}

/-! ## Moving one entry -/

/-- An entry that cannot be moved stays, and so does everything else. -/
theorem files_of_relocateEntry_error {origin target : Text} {error : MoveError}
    (refused : relocateEntry origin target files = .error error later) : later = files := by
  unfold relocateEntry at refused
  split at refused
  · contradiction
  unfold moveByCopy at refused
  split at refused
  · cases refused
    rfl
  · split at refused
    · cases refused
      rfl
    · contradiction
  · unfold moveDirectoryByCopy at refused
    split at refused
    · cases refused
      rfl
    · cases refused
      rfl
    · split at refused
      · cases refused
        rfl
      · cases refused
        rfl
      · split at refused
        · contradiction
        · cases refused
          rfl
  · split at refused
    · cases refused
      rfl
    · contradiction

theorem moveEntry_eq_ok {origin : Text} :
    moveEntry origin destination files = .ok () later ↔
      relocateEntry origin destination.toText files = .ok () later := by
  unfold moveEntry
  cases relocateEntry origin destination.toText files <;> simp

theorem files_of_moveEntry_error {origin : Text}
    (refused : moveEntry origin destination files = .error error later) : later = files := by
  unfold moveEntry at refused
  cases ran : relocateEntry origin destination.toText files with
  | ok _ files => simp [ran] at refused
  | error error files' =>
      rw [ran] at refused
      cases refused
      exact files_of_relocateEntry_error ran

/-! ## Into the trash -/

theorem after_makeTrashDirectory (path : PathName) (files : FileSystem) :
    after (makeTrashDirectory path files) = after (makeDirectories path trashMode files) := by
  unfold makeTrashDirectory
  cases makeDirectories path trashMode files <;> rfl

theorem grows_makeTrashDirectory {path : PathName} (proper : path.Proper) (files : FileSystem) :
    Grows files (after (makeTrashDirectory path files)) [path] := by
  rw [after_makeTrashDirectory]
  exact grows_makeDirectories proper trashMode files

/-- The name of the directory of the entries of a trash with records. -/
def entriesName : Text := "files"

/-- The name of the directory of the records of a trash with records. -/
def recordsName : Text := "info"

/-- The directory of the entries of a trash with records. -/
def entriesPath (directory : PathName) : PathName :=
  directory.below entriesName

/-- The directory of the records of a trash with records. -/
def recordsPath (directory : PathName) : PathName :=
  directory.below recordsName

/-- The directories of a trash, each of which is made before an entry is moved. -/
def Trash.directories : Trash → List PathName
  | ⟨.home, directory⟩ => [directory]
  | ⟨.paired, directory⟩ => [entriesPath directory, recordsPath directory]

/-- The path of a trash is read from a text, or names below one. -/
theorem proper_of_find {trash : Trash} {environment : Environment} {platform : Platform}
    (found : Trash.find environment platform = .ok trash) : trash.directory.Proper := by
  have home : ∀ {home : PathName}, homeDirectory? environment = some home → home.Proper := by
    intro home found
    unfold homeDirectory? at found
    dsimp only at found
    split at found
    · contradiction
    · obtain rfl := Option.some.inj found
      exact PathName.proper_ofText _
  have data : ∀ {data : PathName}, dataDirectory? environment = some data → data.Proper := by
    intro data found
    unfold dataDirectory? at found
    dsimp only at found
    split at found
    · obtain ⟨directory, ofHome, rfl⟩ := Option.map_eq_some_iff.mp found
      exact ((home ofHome).below _).below _
    · obtain rfl := Option.some.inj found
      exact PathName.proper_ofText _
  unfold Trash.find at found
  split at found
  · contradiction
  · rename_i layout _
    split at found
    · contradiction
    · rename_i directory named
      obtain rfl := Except.ok.inj found
      cases layout with
      | home =>
          obtain ⟨above, ofHome, rfl⟩ := Option.map_eq_some_iff.mp named
          exact (home ofHome).below _
      | paired =>
          obtain ⟨above, ofData, rfl⟩ := Option.map_eq_some_iff.mp named
          exact (data ofData).below _

/-- Make the two directories of a trash with records. -/
def preparePaired (directory : PathName) : Effect TrashError Unit := do
  makeTrashDirectory (entriesPath directory)
  makeTrashDirectory (recordsPath directory)

theorem grows_preparePaired (proper : directory.Proper) (files : FileSystem) :
    Grows files (after (preparePaired directory files))
      (Trash.directories ⟨.paired, directory⟩) := by
  have entries := @grows_makeTrashDirectory (entriesPath directory) (proper.below _) files
  unfold preparePaired
  cases ran : makeTrashDirectory (entriesPath directory) files with
  | ok _ middle =>
      rw [ran] at entries
      rw [after_bind_of_ok ran]
      exact entries.trans (grows_makeTrashDirectory (proper.below _) middle)
  | error error middle =>
      rw [ran] at entries
      rw [after_bind_of_error ran]
      exact entries.mono fun path mem place onWay => ⟨path, List.mem_append_left [_] mem, onWay⟩

/-- Where the record about an entry of the trash is. -/
def recordPath (directory : PathName) (name : Text) : PathName :=
  (recordsPath directory).below (name ++ TrashInfo.suffix)

theorem moveToHome_eq_ok :
    moveToHome source directory files = .ok destination later ↔
      ∃ made, makeTrashDirectory directory files = .ok () made ∧
        destination = freePathIn directory source.name made ∧
        relocateEntry source.toText destination.toText made = .ok () later := by
  unfold moveToHome
  simp only [bind_eq_ok]
  constructor
  · rintro ⟨_, made, prepared, _, _, got, _, _, moved, done⟩
    cases got
    cases done
    exact ⟨made, prepared, rfl, moveEntry_eq_ok.mp moved⟩
  · rintro ⟨made, prepared, rfl, moved⟩
    exact ⟨(), made, prepared, made, made, rfl, (), later, moveEntry_eq_ok.mpr moved, rfl⟩

/-- Write the record about the entry that goes to a path of the trash. -/
def noteEntry (host : Host) (source directory destination : PathName) : Effect TrashError Unit :=
  writeInfo (recordPath directory destination.name).toText ⟨source.toText, host.time⟩

theorem moveToPaired_eq_ok :
    moveToPaired host source directory files = .ok destination later ↔
      ∃ made noted, preparePaired directory files = .ok () made ∧
        destination = freePathIn (entriesPath directory) source.name made ∧
        noteEntry host source directory destination made = .ok () noted ∧
        relocateEntry source.toText destination.toText noted = .ok () later := by
  unfold moveToPaired preparePaired entriesPath entriesName
  simp only [bind_eq_ok]
  constructor
  · rintro ⟨_, middle, entries, _, made, records, _, _, got, written⟩
    cases got
    obtain ⟨_, noted, note, done⟩ := bind_eq_ok.mp written
    split at done
    · rename_i moved
      cases done
      exact ⟨made, noted, ⟨(), middle, entries, records⟩, rfl, note, moveEntry_eq_ok.mp moved⟩
    · contradiction
  · rintro ⟨made, noted, ⟨_, middle, entries, records⟩, rfl, note, moved⟩
    refine ⟨(), middle, entries, (), made, records, made, made, rfl,
      bind_eq_ok.mpr ⟨(), noted, note, ?_⟩⟩
    rw [moveEntry_eq_ok.mpr moved]

theorem files_of_moveToHome_error
    (refused : moveToHome source directory files = .error error later) :
    later = after (makeTrashDirectory directory files) := by
  unfold moveToHome at refused
  simp only [bind_eq_error] at refused
  rcases refused with notMade | ⟨_, made, prepared, got | ⟨_, _, got, notMoved | ⟨_, _, _, done⟩⟩⟩
  · rw [notMade, after]
  · cases got
  · cases got
    rw [prepared, after]
    exact files_of_moveEntry_error notMoved
  · cases done

/-- A move to a trash with records fails while its directories are made, or while the record is
written, or behind that; then the record is removed. -/
theorem stages_of_moveToPaired_error
    (refused : moveToPaired host source directory files = .error error later) :
    preparePaired directory files = .error error later ∨
      ∃ made, preparePaired directory files = .ok () made ∧
        (noteEntry host source directory
            (freePathIn (entriesPath directory) source.name made) made = .error error later ∨
          ∃ noted, noteEntry host source directory
              (freePathIn (entriesPath directory) source.name made) made = .ok () noted ∧
            later = removeInfo (recordPath directory
              (freePathIn (entriesPath directory) source.name made).name).toText noted) := by
  unfold moveToPaired at refused
  unfold preparePaired
  simp only [bind_eq_ok, bind_eq_error] at refused ⊢
  rcases refused with noEntries | ⟨_, middle, entries, noRecords | ⟨_, made, records, behind⟩⟩
  · exact Or.inl (Or.inl noEntries)
  · exact Or.inl (Or.inr ⟨_, middle, entries, noRecords⟩)
  · refine Or.inr ⟨made, ⟨_, middle, entries, records⟩, ?_⟩
    rcases behind with got | ⟨_, _, got, written⟩
    · cases got
    cases got
    rcases bind_eq_error.mp written with notNoted | ⟨_, noted, note, notMoved⟩
    · exact Or.inl notNoted
    · refine Or.inr ⟨noted, note, ?_⟩
      split at notMoved
      · contradiction
      · rename_i refused
        cases notMoved
        rw [files_of_moveEntry_error refused]
        rfl

/-! ## The whole move -/

/-- Move an entry into a trash. -/
def Trash.receive (host : Host) (source : PathName) : Trash → Effect TrashError PathName
  | ⟨.home, directory⟩ => moveToHome source directory
  | ⟨.paired, directory⟩ => moveToPaired host source directory

theorem locate_eq_ok :
    locate path files = .ok source later ↔
      later = files ∧ files.absolute path = .ok source ∧ '\x00' ∉ source.toText ∧
        ∃ place entry, files.lstat source.toText = .ok (place, entry) := by
  unfold locate
  cases made : files.absolute path with
  | error error => simp
  | ok absolute =>
      by_cases nul : '\x00' ∈ absolute.toText
      · simp only [List.contains_iff_mem, nul, if_true]
        constructor
        · intro refused
          cases refused
        · rintro ⟨-, same, free, -⟩
          cases same
          exact absurd nul free
      · simp only [List.contains_iff_mem, nul, if_false]
        cases found : files.lstat absolute.toText with
        | ok there =>
            constructor
            · intro same
              cases same
              exact ⟨rfl, rfl, nul, there.1, there.2, found⟩
            · rintro ⟨rfl, same, -⟩
              cases same
              rfl
        | error errno =>
            constructor
            · intro refused
              cases errno <;> cases refused
            · rintro ⟨-, same, -, place, entry, there⟩
              cases same
              rw [found] at there
              cases there

theorem files_of_locate_error (refused : locate path files = .error error later) :
    later = files := by
  unfold locate at refused
  split at refused
  · cases refused
    rfl
  · split at refused
    · cases refused
      rfl
    · split at refused <;> cases refused <;> rfl

theorem moveToTrash_eq (host : Host) (path : Text) :
    moveToTrash host path =
      (locate path >>= fun source =>
        match Trash.find host.environment host.platform with
        | .error error => throw error
        | .ok trash => trash.receive host source) := by
  unfold moveToTrash
  congr 1
  funext source
  cases Trash.find host.environment host.platform with
  | error error => rfl
  | ok trash =>
      obtain ⟨layout, directory⟩ := trash
      cases layout <;> rfl

theorem moveToTrash_eq_ok :
    moveToTrash host path files = .ok destination later ↔
      ∃ source trash, locate path files = .ok source files ∧
        Trash.find host.environment host.platform = .ok trash ∧
        trash.receive host source files = .ok destination later := by
  rw [moveToTrash_eq, bind_eq_ok]
  constructor
  · rintro ⟨source, middle, located, received⟩
    obtain rfl := (locate_eq_ok.mp located).1
    cases found : Trash.find host.environment host.platform with
    | error error =>
        rw [found] at received
        cases received
    | ok trash =>
        rw [found] at received
        exact ⟨source, trash, located, rfl, received⟩
  · rintro ⟨source, trash, located, found, received⟩
    exact ⟨source, files, located, by rw [found]; exact received⟩

/-- A move fails before anything is changed, or when the trash is found and takes the entry. -/
theorem stages_of_moveToTrash_error (refused : moveToTrash host path files = .error error later) :
    later = files ∨
      ∃ source trash, locate path files = .ok source files ∧
        Trash.find host.environment host.platform = .ok trash ∧
        trash.receive host source files = .error error later := by
  rw [moveToTrash_eq, bind_eq_error] at refused
  rcases refused with notLocated | ⟨source, middle, located, notReceived⟩
  · exact Or.inl (files_of_locate_error notLocated)
  · obtain rfl := (locate_eq_ok.mp located).1
    cases found : Trash.find host.environment host.platform with
    | error error =>
        rw [found] at notReceived
        cases notReceived
        exact Or.inl rfl
    | ok trash =>
        rw [found] at notReceived
        exact Or.inr ⟨source, trash, located, rfl, notReceived⟩

end SafeDelete
