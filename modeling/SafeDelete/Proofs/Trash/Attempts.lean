/-
Module: SafeDelete.Proofs.Trash.Attempts
Purpose: The trash command attempts every path once and tells how each attempt went, unless a
  failure that is not about one path ends the run.
Main exports: Attempt, TrashRun.report, Attempt.Runs, Attempts, Interrupts,
  moveToTrash_interrupts_iff, trashPaths_report, runTrash_of_plain
-/
import SafeDelete.Proofs.Trash.Arguments
import SafeDelete.Proofs.Trash.Naming
import SafeDelete.Trash.Run

namespace SafeDelete

open Effect FileSystem

variable {host : Host} {files middle later : FileSystem} {path : Text} {error : TrashError}

/-! ## Attempts -/

/-- An attempt to move a path, and what went wrong with it, if anything did. -/
structure Attempt where
  path : Text
  failure? : Option TrashError
  deriving DecidableEq

/-- What is said about an attempt. -/
def Attempt.message (attempt : Attempt) : Text :=
  match attempt.failure? with
  | none => "'" ++ attempt.path ++ "' moved to trash\n"
  | some error => "trash: " ++ attempt.path ++ ": " ++ error.message ++ "\n"

/-- The path was moved. -/
def Attempt.succeeds (attempt : Attempt) : Bool :=
  attempt.failure?.isNone

/-- The outcome of a run with these attempts.  Each is told once: on standard output if it succeeds,
else on standard error. -/
def TrashRun.report (attempts : List Attempt) : TrashRun where
  exitCode := if attempts.all (·.succeeds) then 0 else 1
  out := (attempts.filter (·.succeeds)).flatMap Attempt.message
  err := (attempts.filter fun attempt => !attempt.succeeds).flatMap Attempt.message

/-- An attempt on some files, and the files that it leaves. -/
inductive Attempt.Runs (host : Host) (files : FileSystem) : Attempt → FileSystem → Prop where
  | moved {path : Text} {destination : PathName} {later : FileSystem}
      (moves : moveToTrash host path files = .ok destination later) :
      Attempt.Runs host files ⟨path, none⟩ later
  | failed {path : Text} {error : TrashError} {later : FileSystem}
      (refused : moveToTrash host path files = .error error later)
      (goesOn : error.endsRun = false) :
      Attempt.Runs host files ⟨path, some error⟩ later

/-- Attempts one after the other, each on the files that the one before it left. -/
inductive Attempts (host : Host) : FileSystem → List Attempt → FileSystem → Prop where
  | nil {files : FileSystem} : Attempts host files [] files
  | cons {files middle later : FileSystem} {attempt : Attempt} {attempts : List Attempt}
      (first : attempt.Runs host files middle) (rest : Attempts host middle attempts later) :
      Attempts host files (attempt :: attempts) later

theorem exitCode_report_eq_zero_iff {attempts : List Attempt} :
    (TrashRun.report attempts).exitCode = 0 ↔ ∀ attempt ∈ attempts, attempt.failure? = none := by
  simp [TrashRun.report, Attempt.succeeds]

theorem report_concat_of_succeeds (done : List Attempt) {attempt : Attempt}
    (succeeds : attempt.succeeds = true) :
    TrashRun.report (done ++ [attempt]) = ⟨(TrashRun.report done).exitCode,
      (TrashRun.report done).out ++ attempt.message, (TrashRun.report done).err⟩ := by
  simp [TrashRun.report, succeeds]

theorem report_concat_of_fails (done : List Attempt) {attempt : Attempt}
    (fails : attempt.succeeds = false) :
    TrashRun.report (done ++ [attempt]) = ⟨1, (TrashRun.report done).out,
      (TrashRun.report done).err ++ attempt.message⟩ := by
  simp [TrashRun.report, fails]

theorem moved_eq (run : TrashRun) (path : Text) :
    run.moved path = ⟨run.exitCode, run.out ++ Attempt.message ⟨path, none⟩, run.err⟩ := by
  simp only [TrashRun.moved, Attempt.message, List.append_assoc]

theorem failed_eq (run : TrashRun) (path : Text) (error : TrashError) :
    run.failed path error = ⟨1, run.out, run.err ++ Attempt.message ⟨path, some error⟩⟩ := by
  simp only [TrashRun.failed, Attempt.message, List.append_assoc]

theorem moved_report (done : List Attempt) (path : Text) :
    (TrashRun.report done).moved path = TrashRun.report (done ++ [⟨path, none⟩]) :=
  (moved_eq _ path).trans (report_concat_of_succeeds done rfl).symm

theorem failed_report (done : List Attempt) (path : Text) (error : TrashError) :
    (TrashRun.report done).failed path error = TrashRun.report (done ++ [⟨path, some error⟩]) :=
  (failed_eq _ path error).trans (report_concat_of_fails done rfl).symm

/-! ## Failures that end the run -/

/-- What ends a run at a path: it is relative and the working directory is gone, it holds a NUL once
it is absolute, or the home directory is needed and named by a tilde. -/
inductive Interrupts (host : Host) (files : FileSystem) (path : Text) : TrashError → Prop where
  | unplaced (relative : (PathName.ofText path).root = .relative)
      (removed : files.workingDirectory.isRemoved = true) :
      Interrupts host files path (.unplaced .noWorkingDirectory)
  | nul {source : PathName} (made : files.absolute path = .ok source)
      (nul : '\x00' ∈ source.toText) : Interrupts host files path .nul
  | noHome {source : PathName} (located : locate path files = .ok source files)
      (homeless : Trash.find host.environment host.platform = .error .noHome) :
      Interrupts host files path .noHome

theorem endsRun_of_makeTrashDirectory {directory : PathName}
    (refused : makeTrashDirectory directory files = .error error later) :
    error.endsRun = false := by
  unfold makeTrashDirectory at refused
  split at refused
  · contradiction
  · cases refused
    rfl

theorem endsRun_of_moveEntry {origin : Text} {destination : PathName}
    (refused : moveEntry origin destination files = .error error later) :
    error.endsRun = false := by
  unfold moveEntry at refused
  split at refused
  · contradiction
  · cases refused
    rfl

theorem endsRun_of_writeInfo {record : Text} {info : TrashInfo}
    (refused : writeInfo record info files = .error error later) : error.endsRun = false := by
  rcases bind_eq_error.mp refused with unwritten | ⟨_, middle, -, unset⟩
  · obtain ⟨-, errno, -, rfl⟩ := files_of_attempt_error unwritten
    rfl
  · obtain ⟨-, errno, -, rfl⟩ := files_of_attempt_error unset
    rfl

theorem endsRun_of_moveToHome {source directory : PathName}
    (refused : moveToHome source directory files = .error error later) :
    error.endsRun = false := by
  rcases bind_eq_error.mp refused with unmade | ⟨_, made, -, refused⟩
  · exact endsRun_of_makeTrashDirectory unmade
  rcases bind_eq_error.mp refused with got | ⟨_, _, -, refused⟩
  · contradiction
  rcases bind_eq_error.mp refused with unmoved | ⟨_, _, -, done⟩
  · exact endsRun_of_moveEntry unmoved
  · contradiction

theorem endsRun_of_moveToPaired {source directory : PathName}
    (refused : moveToPaired host source directory files = .error error later) :
    error.endsRun = false := by
  rcases bind_eq_error.mp refused with unmade | ⟨_, _, -, refused⟩
  · exact endsRun_of_makeTrashDirectory unmade
  rcases bind_eq_error.mp refused with unmade | ⟨_, _, -, refused⟩
  · exact endsRun_of_makeTrashDirectory unmade
  rcases bind_eq_error.mp refused with got | ⟨_, _, -, refused⟩
  · contradiction
  rcases bind_eq_error.mp refused with unwritten | ⟨_, noted, -, refused⟩
  · exact endsRun_of_writeInfo unwritten
  split at refused
  · contradiction
  · rename_i unmoved
    cases refused
    exact endsRun_of_moveEntry unmoved

/-- A trash that is found and does not take an entry fails with that entry alone. -/
theorem endsRun_of_receive {trash : Trash} {source : PathName}
    (refused : trash.receive host source files = .error error later) : error.endsRun = false := by
  obtain ⟨layout, directory⟩ := trash
  cases layout with
  | home => exact endsRun_of_moveToHome refused
  | paired => exact endsRun_of_moveToPaired refused

theorem interrupts_of_locate_error (refused : locate path files = .error error later)
    (ends : error.endsRun = true) : later = files ∧ Interrupts host files path error := by
  unfold locate at refused
  cases made : files.absolute path with
  | error fault =>
      rw [made] at refused
      cases refused
      unfold FileSystem.absolute at made
      split at made
      · rename_i gone
        cases made
        exact ⟨rfl, .unplaced gone.1 gone.2⟩
      · contradiction
  | ok source =>
      rw [made] at refused
      dsimp only at refused
      split at refused
      · rename_i nul
        cases refused
        exact ⟨rfl, .nul made (List.contains_iff_mem.mp nul)⟩
      · split at refused
        · contradiction
        · cases refused
          contradiction
        · cases refused
          contradiction

theorem interrupts_of_find_error {source : PathName}
    (located : locate path files = .ok source files)
    (homeless : Trash.find host.environment host.platform = .error error)
    (ends : error.endsRun = true) : Interrupts host files path error := by
  have unfound := homeless
  unfold Trash.find at unfound
  split at unfound
  · cases unfound
    contradiction
  · split at unfound
    · cases unfound
      exact .noHome located homeless
    · contradiction

theorem moveToTrash_of_interrupts (interrupts : Interrupts host files path error) :
    moveToTrash host path files = .error error files := by
  rw [moveToTrash_eq]
  cases interrupts with
  | unplaced relative removed =>
      apply bind_of_error
      simp only [locate, FileSystem.absolute, relative, removed, and_self, if_true]
  | nul made nul =>
      apply bind_of_error
      simp only [locate, made, List.contains_iff_mem.mpr nul, if_true]
  | noHome located homeless =>
      rw [bind_of_ok located, homeless]
      rfl

/-- A move to the trash fails in a way that ends the run exactly where it is interrupted, and then
has changed nothing. -/
theorem moveToTrash_interrupts_iff :
    moveToTrash host path files = .error error later ∧ error.endsRun = true ↔
      later = files ∧ Interrupts host files path error := by
  constructor
  · rintro ⟨refused, ends⟩
    rw [moveToTrash_eq] at refused
    rcases bind_eq_error.mp refused with unlocated | ⟨source, middle, located, unmoved⟩
    · exact interrupts_of_locate_error unlocated ends
    obtain rfl := (locate_eq_ok.mp located).1
    cases found : Trash.find host.environment host.platform with
    | error fault =>
        rw [found] at unmoved
        cases unmoved
        exact ⟨rfl, interrupts_of_find_error located found ends⟩
    | ok trash =>
        rw [found] at unmoved
        exact absurd (ends.symm.trans (endsRun_of_receive unmoved)) (by decide)
  · rintro ⟨rfl, interrupts⟩
    refine ⟨moveToTrash_of_interrupts interrupts, ?_⟩
    cases interrupts with
    | unplaced relative removed => rfl
    | nul made nul => rfl
    | noHome located homeless => rfl

/-- Without a NUL in the path, only the working directory can bring one in. -/
theorem Interrupts.nul_in_workingDirectory (interrupts : Interrupts host files path .nul)
    (noNul : '\x00' ∉ path) : ∃ name ∈ files.workingDirectory, '\x00' ∈ name := by
  cases interrupts with
  | nul made nul =>
      by_contra named
      exact nul_not_mem_absolute made noNul (fun name mem nul => named ⟨name, mem, nul⟩) nul

/-! ## Runs -/

/-- One path of a run: an attempt that is told, or the end of the run. -/
theorem trashPath_report (host : Host) (done : List Attempt) (path : Text) (files : FileSystem) :
    (∃ attempt later, attempt.path = path ∧ attempt.Runs host files later ∧
      trashPath host (.report done) path files = .ok (.report (done ++ [attempt])) later) ∨
    ∃ error, Interrupts host files path error ∧
      trashPath host (.report done) path files = .error error files := by
  unfold trashPath
  cases went : moveToTrash host path files with
  | ok destination later =>
      refine .inl ⟨⟨path, none⟩, later, rfl, .moved went, ?_⟩
      rw [← moved_report]
  | error error later =>
      cases ends : error.endsRun with
      | true =>
          obtain ⟨rfl, interrupts⟩ := moveToTrash_interrupts_iff.mp ⟨went, ends⟩
          exact .inr ⟨error, interrupts, by simp only [ends, if_true]⟩
      | false =>
          refine .inl ⟨⟨path, some error⟩, later, rfl, .failed went ends, ?_⟩
          simp only [ends, Bool.false_eq_true, if_false, failed_report]

/-- A run attempts its paths in order, each of them once, up to a failure that ends it. -/
theorem trashPaths_report (host : Host) (done : List Attempt) (paths : List Text)
    (files : FileSystem) :
    (∃ attempts later, attempts.map Attempt.path = paths ∧ Attempts host files attempts later ∧
      trashPaths host (.report done) paths files = .ok (.report (done ++ attempts)) later) ∨
    ∃ attempts path rest middle error, attempts.map Attempt.path ++ path :: rest = paths ∧
      Attempts host files attempts middle ∧ Interrupts host middle path error ∧
      trashPaths host (.report done) paths files = .error error middle := by
  induction paths generalizing done files with
  | nil => exact .inl ⟨[], files, rfl, .nil, by rw [List.append_nil]; rfl⟩
  | cons path paths ih =>
      rcases trashPath_report host done path files with
        ⟨attempt, middle, rfl, runs, went⟩ | ⟨error, interrupts, went⟩
      · rw [trashPaths, bind_of_ok went]
        rcases ih (done ++ [attempt]) middle with
          ⟨attempts, later, rfl, rest, went⟩ |
          ⟨attempts, path, rest, last, error, rfl, others, interrupts, went⟩
        · exact .inl ⟨attempt :: attempts, later, rfl, .cons runs rest, by simpa using went⟩
        · exact .inr ⟨attempt :: attempts, path, rest, last, error, rfl, .cons runs others,
            interrupts, went⟩
      · rw [trashPaths, bind_of_error went]
        exact .inr ⟨[], path, paths, files, error, rfl, .nil, interrupts, rfl⟩

/-- Where no argument before a bare double dash spells a switch, every argument is attempted once,
but for the first bare double dash, and that one too where an unknown option stands behind a path
before it.  Each attempt is told once, a failed one does not keep the others from being made, and
the run ends well if there was one and all succeed; but a failure that is not about one path ends
it. -/
theorem runTrash_of_plain {arguments : List Text} (noNul : ∀ word ∈ arguments, '\x00' ∉ word)
    (plain : ∀ word ∈ TrashRequest.front arguments, ¬Switch.Spelled word) (host : Host)
    (files : FileSystem) :
    ∃ targets,
      targets.Perm (if TrashRequest.OptionsFirst (TrashRequest.front arguments) then
        arguments.erase TrashRequest.terminator else arguments) ∧
      (targets = [] → runTrash host arguments files =
        .ok ⟨1, trashHelp host.environment.columns, []⟩ files) ∧
      (targets ≠ [] →
        (∃ attempts later, attempts.map Attempt.path = targets ∧
          Attempts host files attempts later ∧
          runTrash host arguments files = .ok (TrashRun.report attempts) later ∧
          ((TrashRun.report attempts).exitCode = 0 ↔
            ∀ attempt ∈ attempts, attempt.failure? = none)) ∨
        ∃ attempts path rest middle error,
          attempts.map Attempt.path ++ path :: rest = targets ∧
          Attempts host files attempts middle ∧ Interrupts host middle path error ∧
          (error = .nul → ∃ name ∈ middle.workingDirectory, '\x00' ∈ name) ∧
          runTrash host arguments files = .error error middle) := by
  obtain ⟨targets, request, perm⟩ := TrashRequest.ofArguments_of_plain plain
  refine ⟨targets, perm, ?_, ?_⟩
  · rintro rfl
    rw [runTrash, request]
    rfl
  · intro some
    have ran : runTrash host arguments files = trashPaths host (.report []) targets files := by
      obtain ⟨first, rest, rfl⟩ := List.exists_cons_of_ne_nil some
      rw [runTrash, request]
      rfl
    rw [ran]
    rcases trashPaths_report host [] targets files with
      ⟨attempts, later, paths, attempted, went⟩ |
      ⟨attempts, path, rest, middle, error, paths, attempted, interrupts, went⟩
    · exact .inl ⟨attempts, later, paths, attempted, went, exitCode_report_eq_zero_iff⟩
    · refine .inr ⟨attempts, path, rest, middle, error, paths, attempted, interrupts, ?_, went⟩
      rintro rfl
      have mem : path ∈ arguments := by
        have mem := perm.subset (paths ▸ List.mem_append_right _ List.mem_cons_self)
        split at mem
        · exact List.mem_of_mem_erase mem
        · exact mem
      exact interrupts.nul_in_workingDirectory (noNul path mem)

theorem runTrash_of_plain_dashed : ∃ attempts later, attempts.map Attempt.path = [['b']] ∧
    Attempts homeHost workFiles attempts later ∧
    runTrash homeHost ["--", "b"] workFiles = .ok (TrashRun.report attempts) later ∧
    ∀ attempt ∈ attempts, attempt.failure? = none := by
  obtain ⟨targets, perm, -, runs⟩ := @runTrash_of_plain ["--", "b"] (by decide)
    (fun word mem => absurd mem List.not_mem_nil) homeHost workFiles
  obtain rfl : targets = [['b']] := List.perm_singleton.mp perm
  have zero : (match runTrash homeHost ["--", "b"] workFiles with
      | .ok run _ => run.exitCode
      | .error _ _ => 1) = 0 := by decide +kernel
  rcases runs (List.cons_ne_nil _ _) with
    ⟨attempts, later, paths, attempted, went, exit⟩ | ⟨_, _, _, _, _, -, -, -, -, went⟩
  · rw [went] at zero
    exact ⟨attempts, later, paths, attempted, went, exit.mp zero⟩
  · rw [went] at zero
    contradiction

/-- Switches in one word are no path, and a bare double dash can be one. -/
theorem runTrash_cluster :
    runTrash homeHost ["-vx"] workFiles =
      .ok (.refused homeHost.environment.columns .version "x") workFiles ∧
    TrashRequest.ofArguments ["a", "-x", "--", "b"] = .paths ["-x", "--", "b", "a"] :=
  ⟨rfl, rfl⟩

end SafeDelete
