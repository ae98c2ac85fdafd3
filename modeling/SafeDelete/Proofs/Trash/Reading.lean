/-
Module: SafeDelete.Proofs.Trash.Reading
Purpose: A record of the trash is read back as it was written, whatever the path in it.
Main exports: Moment.isPlain_text, TrashInfo.lines, TrashInfo.ofBytes?, TrashInfo.lines_text,
  TrashInfo.ofBytes?_encode, record_is_read_back
-/
import SafeDelete.Host.Moment
import SafeDelete.Proofs.Trash.Record

namespace SafeDelete

/-- A date is one line. -/
theorem Moment.isPlain_text (moment : Moment) : Text.IsPlain moment.text := by
  have dash : Text.IsPlain "-" := by decide
  have colon : Text.IsPlain ":" := by decide
  have t : Text.IsPlain "T" := by decide
  simp only [Moment.text, Text.isPlain_append, isPlain_signedDecimal, isPlain_twoDigits, dash,
    colon, t, and_self]

/-! ## Records -/

namespace TrashInfo

/-- The name of the field that holds the path. -/
def pathField : Text := "Path"

/-- The name of the field that holds the date. -/
def dateField : Text := "DeletionDate"

/-- The record that fields tell; the path in them is percent-encoded. -/
def ofFields? (fields : List (Text × Text)) : Option TrashInfo := do
  let path ← Percent.decode? (← fields.lookup pathField)
  let date ← fields.lookup dateField
  return ⟨path, date⟩

/-- The record that lines tell: a title, and a field on each line after it. -/
def ofLines? : List Text → Option TrashInfo
  | [] => none
  | first :: rest => if first = title then (rest.mapM Text.field?).bind ofFields? else none

/-- The record that a file holds. -/
def ofBytes? (record : Bytes) : Option TrashInfo :=
  (Utf8.decode record).toOption.bind fun text => ofLines? (Text.lines text)

/-- The lines of a record: its title, the path and the date. -/
def lines (info : TrashInfo) : List Text :=
  ["[Trash Info]", "Path=" ++ Percent.encode info.path, "DeletionDate=" ++ info.deletionDate]

theorem text_eq_flatMap (info : TrashInfo) : info.text = info.lines.flatMap (· ++ ['\n']) := by
  rw [text_eq]
  simp only [lines, List.flatMap_cons, List.flatMap_nil, List.append_nil, List.append_assoc,
    List.singleton_append]
  rfl

theorem lines_text {info : TrashInfo} (plain : Text.IsPlain info.deletionDate) :
    Text.lines info.text = info.lines := by
  have titlePlain : Text.IsPlain title := by decide
  have keyPlain : Text.IsPlain pathKey := by decide
  have datePlain : Text.IsPlain dateKey := by decide
  rw [text_eq, Text.lines_append_newline titlePlain,
    Text.lines_append_newline (Text.isPlain_append.mpr ⟨keyPlain, Percent.isPlain_encode _⟩),
    Text.lines_append_newline (Text.isPlain_append.mpr ⟨datePlain, plain⟩)]
  rfl

theorem ofFields?_encode (info : TrashInfo) :
    ofFields? [(pathField, Percent.encode info.path), (dateField, info.deletionDate)] =
      some info := by
  have read : ofFields? [(pathField, Percent.encode info.path), (dateField, info.deletionDate)] =
      (Percent.decode? (Percent.encode info.path)).bind fun path =>
        some ⟨path, info.deletionDate⟩ := rfl
  rw [read, Percent.decode?_encode, Option.bind_some]

theorem ofLines?_lines (info : TrashInfo) : ofLines? info.lines = some info := by
  have path : Text.field? ("Path=" ++ Percent.encode info.path) =
      some (pathField, Percent.encode info.path) :=
    @Text.field?_append pathField (by decide) _
  have date : Text.field? ("DeletionDate=" ++ info.deletionDate) =
      some (dateField, info.deletionDate) :=
    @Text.field?_append dateField (by decide) _
  have title : ("[Trash Info]" : Text) = title := rfl
  rw [lines, ofLines?, if_pos title, List.mapM_cons, List.mapM_cons, List.mapM_nil, path, date]
  exact ofFields?_encode info

/-- A record is read back as it was written. -/
theorem ofBytes?_encode {info : TrashInfo} (plain : Text.IsPlain info.deletionDate) :
    ofBytes? (Utf8.encode info.text) = some info := by
  rw [ofBytes?, Utf8.decode_encode]
  dsimp only [Except.toOption, Option.bind_some]
  rw [lines_text plain, ofLines?_lines]

end TrashInfo

/-- The record about a path, whatever stands in it, is three lines by every convention of what ends a
line, each of them ended by a line feed.  Decoding what the second one tells gives the path, so that other
paths have other records; and the file that is written is read back as the record. -/
theorem record_is_read_back (path : Text) (moment : Moment) :
    Text.lines (TrashInfo.text ⟨path, moment.text⟩) = TrashInfo.lines ⟨path, moment.text⟩ ∧
      TrashInfo.text ⟨path, moment.text⟩ =
        (TrashInfo.lines ⟨path, moment.text⟩).flatMap (· ++ ['\n']) ∧
      Percent.decode? (Percent.encode path) = some path ∧
      (∀ other, other ≠ path → Percent.encode other ≠ Percent.encode path) ∧
      ∀ (record : Text) (files later : FileSystem),
        writeInfo record ⟨path, moment.text⟩ files = .ok () later →
          ∃ content, later.read record = .ok content ∧
            TrashInfo.ofBytes? content = some ⟨path, moment.text⟩ := by
  have plain := moment.isPlain_text
  refine ⟨TrashInfo.lines_text plain, TrashInfo.text_eq_flatMap _, Percent.decode?_encode path,
    fun other apart same => apart (Percent.encode_injective same), ?_⟩
  intro record files later written
  obtain ⟨place, writes, rfl⟩ := writeInfo_eq_ok written
  exact ⟨_, writes.read _ _, TrashInfo.ofBytes?_encode plain⟩

-- What would end a line or begin a field is encoded.
example : Percent.encode "/a\nPath=/b\u2028" = "/a%0APath%3D/b%E2%80%A8" := by decide +kernel

end SafeDelete
