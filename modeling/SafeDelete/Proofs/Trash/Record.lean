/-
Module: SafeDelete.Proofs.Trash.Record
Purpose: A record of the trash is one file, and a record that could not be written is none.
Main exports: TrashInfo.entry, TrashInfo.text_eq, TrashInfo.path?_encode, writeInfo_eq_ok, files_of_writeInfo_error,
  isNamed_recordPath, removeInfo_insert
-/
import SafeDelete.Proofs.Files.Writing
import SafeDelete.Proofs.Text.Percent
import SafeDelete.Proofs.Trash.FreeName
import SafeDelete.Proofs.Trash.Stages

namespace SafeDelete

open Effect FileSystem

variable {files later : FileSystem} {path : PathName} {info : TrashInfo} {place : Place}

/-- A record as a file. -/
def TrashInfo.entry (info : TrashInfo) : Entry :=
  .file infoMode (Utf8.encode info.text)

namespace TrashInfo

/-- The first line of a record. -/
def title : Text := "[Trash Info]"

/-- What a line that tells the path begins with. -/
def pathKey : Text := "Path="

/-- What a line that tells the date begins with. -/
def dateKey : Text := "DeletionDate="

/-- The path that a line of a record tells. -/
def pathLine? (line : Text) : Option Text :=
  if Text.startsWith pathKey line then Percent.decode? (line.drop pathKey.length) else none

/-- The path that a record tells. -/
def path? (record : Bytes) : Option Text :=
  match Utf8.decode record with
  | .ok text => (Text.splitOn '\n' text).findSome? pathLine?
  | .error _ => none

theorem lines_of_parts {first second head key next encoded date last : Text}
    (opens : first = head ++ '\n' :: key) (turns : second = '\n' :: next) :
    first ++ encoded ++ second ++ date ++ last =
      head ++ '\n' :: (key ++ encoded ++ '\n' :: (next ++ date ++ last)) := by
  subst opens turns
  simp only [List.append_assoc, List.cons_append]

/-- A record is three lines: its title, the path and the date. -/
theorem text_eq (info : TrashInfo) :
    info.text = title ++ '\n' :: (pathKey ++ Percent.encode info.path ++ '\n' ::
      (dateKey ++ info.deletionDate ++ ['\n'])) := by
  have first : ("[Trash Info]\nPath=" : Text) = title ++ '\n' :: pathKey := by decide
  have second : ("\nDeletionDate=" : Text) = '\n' :: dateKey := by decide
  exact lines_of_parts first second

theorem pathLine?_encode (path : Text) :
    pathLine? (pathKey ++ Percent.encode path) = some path := by
  have key : Text.startsWith pathKey (pathKey ++ Percent.encode path) = true :=
    List.isPrefixOf_iff_prefix.mpr (List.prefix_append _ _)
  rw [pathLine?, if_pos key, List.drop_left, Percent.decode?_encode]

/-- A record tells the path that it was written for. -/
theorem path?_encode (info : TrashInfo) : path? (Utf8.encode info.text) = some info.path := by
  have noTitle : pathLine? title = none := rfl
  have line : '\n' ∉ pathKey ++ Percent.encode info.path := by
    rw [List.mem_append]
    rintro (start | encoded)
    · exact absurd start (by decide)
    · exact Percent.newline_not_mem_encode _ encoded
  rw [path?, Utf8.decode_encode]
  dsimp only
  rw [text_eq, Text.splitOn_append_separator (by decide), Text.splitOn_append_separator line,
    List.findSome?_cons, noTitle, List.findSome?_cons, pathLine?_encode]

end TrashInfo

theorem writeInfo_eq_ok {path : Text} (written : writeInfo path info files = .ok () later) :
    ∃ place, files.Writes path place ∧ later = files.insert place info.entry := by
  unfold writeInfo at written
  obtain ⟨_, middle, put, permitted⟩ := bind_eq_ok.mp written
  obtain ⟨place, mode, writes, rfl⟩ := write_eq_ok (attempt_eq_ok.mp put)
  have permitted := attempt_eq_ok.mp permitted
  rw [writes.chmod] at permitted
  exact ⟨place, writes, (Except.ok.inj permitted).symm⟩

theorem files_of_writeInfo_error {path : Text} {error : TrashError}
    (refused : writeInfo path info files = .error error later) : later = files := by
  unfold writeInfo at refused
  rcases bind_eq_error.mp refused with notPut | ⟨_, middle, put, notPermitted⟩
  · exact (files_of_attempt_error notPut).1
  · obtain ⟨place, mode, writes, rfl⟩ := write_eq_ok (attempt_eq_ok.mp put)
    obtain ⟨-, errno, notPermitted, -⟩ := files_of_attempt_error notPermitted
    rw [writes.chmod] at notPermitted
    cases notPermitted

/-! ## Where a record is -/

theorem isName_recordsName : IsName recordsName where
  nonempty := by decide
  ne_itself := by decide
  ne_above := by decide
  noSlash := by decide

theorem isName_entriesName : IsName entriesName where
  nonempty := by decide
  ne_itself := by decide
  ne_above := by decide
  noSlash := by decide

theorem isName_recordName {name : Text} (noSlash : '/' ∉ name) :
    IsName (name ++ TrashInfo.suffix) := by
  have long : 2 < (name ++ TrashInfo.suffix).length := by
    simp only [List.length_append]
    exact Nat.lt_of_lt_of_le (by decide) (Nat.le_add_left TrashInfo.suffix.length _)
  refine ⟨?_, ?_, ?_, ?_⟩
  · intro same
    exact absurd (same ▸ long) (by decide)
  · intro same
    exact absurd (same ▸ long) (by decide)
  · intro same
    exact absurd (same ▸ long) (by decide)
  · rw [List.mem_append]
    rintro (inName | inSuffix)
    · exact noSlash inName
    · exact absurd inSuffix (by decide)

theorem entriesPath_eq (directory : PathName) :
    entriesPath directory = ⟨directory.root, directory.parts ++ [entriesName]⟩ :=
  PathName.below_of_isName directory isName_entriesName

theorem recordsPath_eq (directory : PathName) :
    recordsPath directory = ⟨directory.root, directory.parts ++ [recordsName]⟩ :=
  PathName.below_of_isName directory isName_recordsName

theorem recordPath_eq (directory : PathName) {name : Text} (noSlash : '/' ∉ name) :
    recordPath directory name =
      ⟨directory.root, directory.parts ++ [recordsName] ++ [name ++ TrashInfo.suffix]⟩ := by
  rw [recordPath, PathName.below_of_isName _ (isName_recordName noSlash), recordsPath_eq]

theorem parent_recordPath (directory : PathName) {name : Text} (noSlash : '/' ∉ name) :
    (recordPath directory name).parent = recordsPath directory := by
  rw [recordPath_eq directory noSlash, PathName.parent, List.dropLast_concat, recordsPath_eq]

theorem isNamed_recordPath {directory : PathName} (proper : directory.Proper) {name : Text}
    (noSlash : '/' ∉ name) : (recordPath directory name).IsNamed :=
  .below (proper.below _) (isName_recordName noSlash)

/-- The path of a record is longer than that of its entry. -/
theorem length_entry_lt_length_record (directory : PathName) {name : Text} (noSlash : '/' ∉ name) :
    (Utf8.encode (PathName.toText ⟨directory.root,
        directory.parts ++ [entriesName] ++ [name]⟩)).length <
      (Utf8.encode (recordPath directory name).toText).length := by
  obtain ⟨lead, text⟩ := PathName.exists_toText_append directory.root directory.parts
  have below : ∀ first last,
      PathName.toText ⟨directory.root, directory.parts ++ [first] ++ [last]⟩ =
      lead ++ first ++ '/' :: last := fun first last => by
    rw [PathName.toText_append (by simp), text]
  rw [recordPath_eq directory noSlash, below, below]
  have entries : (Utf8.encode entriesName).length = 5 := rfl
  have records : (Utf8.encode recordsName).length = 4 := rfl
  have suffix : (Utf8.encode TrashInfo.suffix).length = 10 := rfl
  have slash : ∀ text : Text, (Utf8.encode ('/' :: text)).length = (Utf8.encode text).length + 1 :=
    fun text => by
      rw [← List.singleton_append, Utf8.encode_append, List.length_append, Nat.add_comm]
      rfl
  simp only [Utf8.encode_append, List.length_append, slash, entries, records, suffix]
  omega

/-! ## Taking a record back -/

/-- A record at a place of its own is removed without a trace. -/
theorem removeInfo_insert (named : path.IsNamed) {directory : Place} {name : Text}
    (reaches : files.Reaches path directory name)
    (free : files.get? (directory ++ [name]) = none) :
    removeInfo path.toText (files.insert (directory ++ [name]) info.entry) =
      (files.insert (directory ++ [name]) info.entry).erase (directory ++ [name]) := by
  have put : (files.insert (directory ++ [name]) info.entry).get? (directory ++ [name]) =
      some info.entry := by
    rw [get?_insert files (by simp), if_pos rfl]
  have reaches' := reaches.mono (Extends.insert (by simp) free info.entry).continues rfl
  have found := (lstat_eq_ok_iff named).mpr ⟨directory, name, reaches', rfl, put⟩
  unfold removeInfo unlink
  rw [found]
  rfl

theorem get?_erase_insert (proper : place ≠ []) (free : files.get? place = none) (entry : Entry)
    (other : Place) : ((files.insert place entry).erase place).get? other = files.get? other := by
  rw [get?_erase _ proper]
  split
  · rename_i same
    rw [same, free]
  · rename_i apart
    rw [get?_insert _ proper, if_neg apart]

end SafeDelete
