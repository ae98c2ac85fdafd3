/-
Module: SafeDelete.Proofs.Host.Logs
Purpose: What a log and the one before it hold after any number of records.
Main exports: Logs, Logs.add, Logs.addAll, Logs.whole_addAll, Logs.Appends, Logs.appends_add,
  Logs.Keeps, Logs.keeps_addAll
-/
import SafeDelete.Host.Log

namespace SafeDelete

/-- The contents of the log before the present one, and of the present one. -/
structure Logs where
  old : Bytes
  log : Bytes
  deriving DecidableEq

namespace Logs

variable {logs : Logs} {record : Bytes} {records later : List Bytes}

/-- One more record: a full log becomes the old one first. -/
def add (logs : Logs) (record : Bytes) : Logs :=
  if logLimit ≤ logs.log.length then ⟨logs.log, record⟩ else ⟨logs.old, logs.log ++ record⟩

/-- One record after the other. -/
def addAll (logs : Logs) (records : List Bytes) : Logs :=
  records.foldl add logs

/-- The old log and the present one behind it. -/
def whole (logs : Logs) : Bytes :=
  logs.old ++ logs.log

theorem add_of_full (full : logLimit ≤ logs.log.length) (record : Bytes) :
    logs.add record = ⟨logs.log, record⟩ :=
  if_pos full

theorem add_of_not_full (room : logs.log.length < logLimit) (record : Bytes) :
    logs.add record = ⟨logs.old, logs.log ++ record⟩ :=
  if_neg (Nat.not_le.mpr room)

@[simp] theorem addAll_cons (logs : Logs) (record : Bytes) (records : List Bytes) :
    logs.addAll (record :: records) = (logs.add record).addAll records :=
  rfl

theorem addAll_append (logs : Logs) (records later : List Bytes) :
    logs.addAll (records ++ later) = (logs.addAll records).addAll later :=
  List.foldl_append

/-! ## Nothing but the oldest is lost -/

/-- A record goes behind all there is, of which a full log drops the old one. -/
theorem whole_add (logs : Logs) (record : Bytes) :
    (logs.add record).whole <:+ logs.whole ++ record := by
  rcases Nat.lt_or_ge logs.log.length logLimit with room | full
  · refine ⟨[], ?_⟩
    rw [add_of_not_full room, whole, whole, List.nil_append, List.append_assoc]
  · rw [add_of_full full, whole, whole, List.append_assoc]
    exact List.suffix_append logs.old _

theorem whole_addAll (logs : Logs) (records : List Bytes) :
    (logs.addAll records).whole <:+ logs.whole ++ records.flatten := by
  induction records generalizing logs with
  | nil =>
      rw [List.flatten_nil, List.append_nil]
      exact List.suffix_refl _
  | cons record rest ih =>
      obtain ⟨lost, whole⟩ := whole_add logs record
      refine (ih (logs.add record)).trans ⟨lost, ?_⟩
      rw [List.flatten_cons, ← List.append_assoc, whole, List.append_assoc]

/-! ## Each record goes to the end of the log -/

/-- A record is put at the end of the log.  Only a full log is emptied for it, to become the old
one, so that the log is never longer than its limit by more than the record. -/
structure Appends (logs next : Logs) (record : Bytes) : Prop where
  log : next.log = (if logLimit ≤ logs.log.length then [] else logs.log) ++ record
  old : next.old = if logLimit ≤ logs.log.length then logs.log else logs.old
  short : next.log.length < logLimit + record.length

theorem appends_add (logs : Logs) (record : Bytes) : logs.Appends (logs.add record) record := by
  rcases Nat.lt_or_ge logs.log.length logLimit with room | full
  · have stays := Nat.not_le.mpr room
    rw [add_of_not_full room]
    refine ⟨by rw [if_neg stays], by rw [if_neg stays], ?_⟩
    rw [List.length_append]
    exact Nat.add_lt_add_right room _
  · rw [add_of_full full]
    refine ⟨by rw [if_pos full, List.nil_append], by rw [if_pos full], ?_⟩
    exact Nat.lt_add_of_pos_left (by decide)

/-! ## What is recent is kept -/

/-- A record and all that came behind it are there in full: at the end of the log, or the first of
them, with the record, at the end of the old log, and the others in the log. -/
def Keeps (logs : Logs) (record behind : Bytes) : Prop :=
  record ++ behind <:+ logs.log ∨
    ∃ first, behind = first ++ logs.log ∧ record ++ first <:+ logs.old

theorem keeps_add (logs : Logs) (record : Bytes) : (logs.add record).Keeps record [] := by
  left
  rw [List.append_nil]
  rcases Nat.lt_or_ge logs.log.length logLimit with room | full
  · refine ⟨logs.log, ?_⟩
    rw [add_of_not_full room]
  · refine ⟨[], ?_⟩
    rw [add_of_full full, List.nil_append]

/-- A further record loses nothing, as long as less came behind than fills a log. -/
theorem Keeps.add {behind : Bytes} (keeps : logs.Keeps record behind)
    (few : behind.length < logLimit) (next : Bytes) :
    (logs.add next).Keeps record (behind ++ next) := by
  rcases Nat.lt_or_ge logs.log.length logLimit with room | full
  · rw [add_of_not_full room]
    rcases keeps with ⟨front, same⟩ | ⟨first, rfl, inOld⟩
    · have inLog : front ++ (record ++ (behind ++ next)) = logs.log ++ next := by
        rw [← same, List.append_assoc, List.append_assoc]
      exact .inl ⟨front, inLog⟩
    · exact .inr ⟨first, List.append_assoc _ _ _, inOld⟩
  · rw [add_of_full full]
    rcases keeps with inLog | ⟨first, rfl, inOld⟩
    · exact .inr ⟨behind, rfl, inLog⟩
    · -- The log is all behind the record, so it cannot be full.
      rw [List.length_append] at few
      exact absurd (Nat.lt_of_le_of_lt (Nat.le_add_left _ _) few) (Nat.not_lt.mpr full)

theorem Keeps.addAll {behind : Bytes} (keeps : logs.Keeps record behind)
    (few : (behind ++ later.flatten).length < logLimit) :
    (logs.addAll later).Keeps record (behind ++ later.flatten) := by
  induction later generalizing logs behind with
  | nil =>
      rw [List.flatten_nil, List.append_nil]
      exact keeps
  | cons next rest ih =>
      rw [List.flatten_cons, ← List.append_assoc] at few ⊢
      refine ih (keeps.add ?_ next) few
      rw [List.length_append, List.length_append] at few
      omega

/-- A record with less behind it than fills a log is kept in full. -/
theorem keeps_addAll (logs : Logs) (record : Bytes)
    (few : later.flatten.length < logLimit) :
    ((logs.add record).addAll later).Keeps record later.flatten :=
  (keeps_add logs record).addAll few

end Logs

end SafeDelete
