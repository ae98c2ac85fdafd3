/-
Module: SafeDelete.Proofs.Trash.Naming
Purpose: The entry that is moved to the trash is the one at the path, if the path reads as written.
Main exports: Delivery.vacates, moveToTrash_of_readsAsWritten
-/
import SafeDelete.Proofs.Trash.Delivery

namespace SafeDelete

open Effect FileSystem

variable {files made noted later : FileSystem} {host : Host} {source destination : PathName}
  {trash : Trash} {name : Text} {place directory : Place} {path : Text}

/-! ## What leaves its place -/

/-- Nothing is left where the entry was, and nothing else is lost than what was below it. -/
theorem Delivery.vacates
    (delivery : Delivery host files source trash made noted place directory name later)
    (wellformed : files.Wellformed) :
    later.get? place = none ∧
      ∀ other, files.get? other ≠ none → later.get? other = none → place <+: other := by
  have there := delivery.grows.present delivery.present
  have leaves : directory ++ [name] ≠ place := fun same => there (same ▸ delivery.free)
  obtain ⟨gone, lost⟩ := delivery.moved.lost
    (delivery.notes.wellformed (delivery.grows.wellformed wellformed)) delivery.proper
    (delivery.notes.present there) leaves
  exact ⟨gone, fun other old => lost other (delivery.notes.present (delivery.grows.present old))⟩

/-! ## Paths that read as written -/

theorem nul_not_mem_absolute (made : files.absolute path = .ok source) (noNul : '\x00' ∉ path)
    (noNulHere : ∀ name ∈ files.workingDirectory, '\x00' ∉ name) : '\x00' ∉ source.toText := by
  unfold FileSystem.absolute at made
  split at made
  · contradiction
  obtain rfl := Except.ok.inj made
  intro mem
  rcases PathName.mem_absolute mem with slash | dot | nul | ⟨name, here, nul⟩
  · exact absurd slash (by decide)
  · exact absurd dot (by decide)
  · exact noNul nul
  · exact noNulHere name here nul

/-- Where nothing is found at the absolute path, the move is refused and changes nothing. -/
theorem moveToTrash_of_lstat_error (absolute : files.absolute path = .ok source)
    (noNul : '\x00' ∉ source.toText) {errno : Errno}
    (missing : files.lstat source.toText = .error errno) :
    ∃ error, error.endsRun = false ∧ moveToTrash host path files = .error error files := by
  have refused : ∃ error, error.endsRun = false ∧ locate path files = .error error files := by
    simp only [locate, absolute, List.contains_iff_mem, if_neg noNul, missing]
    cases errno <;> exact ⟨_, rfl, rfl⟩
  obtain ⟨error, goesOn, refused⟩ := refused
  refine ⟨error, goesOn, ?_⟩
  rw [moveToTrash_eq]
  exact bind_eq_error.mpr (Or.inl refused)

/-- A path that reads as written is refused if nothing is there, and otherwise what leaves its place
is what is there. -/
theorem moveToTrash_of_readsAsWritten (host : Host) (wellformed : files.Wellformed)
    (noNul : '\x00' ∉ path) (noNulHere : ∀ name ∈ files.workingDirectory, '\x00' ∉ name)
    (reads : files.ReadsAsWritten path) :
    (∀ errno, files.lstat path = .error errno →
      ∃ error, error.endsRun = false ∧ moveToTrash host path files = .error error files) ∧
    (∀ destination later, moveToTrash host path files = .ok destination later →
      ∃ place entry, files.lstat path = .ok (place, entry) ∧ later.get? place = none ∧
        ∀ other, files.get? other ≠ none → later.get? other = none → place <+: other) := by
  constructor
  · intro errno missing
    obtain ⟨source, absolute⟩ : ∃ source, files.absolute path = .ok source := by
      unfold FileSystem.absolute
      rw [if_neg]
      · exact ⟨_, rfl⟩
      · rintro ⟨relative, removed⟩
        exact absurd (reads.placed (root_eq_relative_iff.mp relative)) (by simp [removed])
    have noNul := nul_not_mem_absolute absolute noNul noNulHere
    cases found : files.lstat source.toText with
    | error errno => exact moveToTrash_of_lstat_error absolute noNul found
    | ok there =>
        have named := lstat_of_lstat_absolute wellformed reads absolute found
        exact absurd (missing.symm.trans named) (by simp)
  · intro destination later moved
    obtain ⟨source, trash, made, noted, place, directory, name, absolute, -, delivery⟩ :=
      exists_delivery wellformed moved
    obtain ⟨entry, found⟩ := delivery.located
    exact ⟨place, entry, lstat_of_lstat_absolute wellformed reads absolute found,
      delivery.vacates wellformed⟩

/-! ## A path that does, and one that does not -/

/-- A machine whose trash is in the home directory. -/
def homeHost : Host where
  environment := [(homeVariable, "/h")]
  platform := Platform.darwin
  time := "2024-01-02T03:04:05"

/-- Files of a process that works in a directory with a directory and a file. -/
def workFiles : FileSystem where
  entries := [(["h"], .directory 0o755), (["w"], .directory 0o755), (["w", "a"], .directory 0o755),
    (["w", "b"], .file 0o644 [])]
  workingDirectory := ["w"]

theorem wellformed_workFiles : workFiles.Wellformed :=
  wellformed_of_entries (by decide) (by decide)

theorem readsAsWritten_workFiles : workFiles.ReadsAsWritten "a/../b" where
  nonempty := by decide
  short := by decide
  placed := by decide
  upwards := by
    rintro front ⟨rest, same⟩
    have parts : front ++ [above] ++ rest = [['a'], above, ['b']] := same
    obtain rfl : front = [['a']] := by
      rcases front with _ | ⟨first, _ | ⟨second, _ | ⟨third, more⟩⟩⟩ <;> simp_all [above]
    exact ⟨_, _, rfl⟩
  ending := by
    rintro ⟨front, last, same, special⟩
    have parts : [['a'], above] ++ [['b']] = front ++ [last] := same
    cases (List.append_inj' parts rfl).2
    exact absurd special (by simp [IsPlain, itself, above])

theorem moveToTrash_upwards : ∃ later,
    moveToTrash homeHost "a/../b" workFiles = .ok ⟨.slash, ["h", ".Trash", "b"]⟩ later ∧
      ∃ place entry, workFiles.lstat "a/../b" = .ok (place, entry) ∧ later.get? place = none ∧
        ∀ other, workFiles.get? other ≠ none → later.get? other = none → place <+: other := by
  refine ⟨_, rfl, ?_⟩
  exact (moveToTrash_of_readsAsWritten homeHost wellformed_workFiles (by decide) (by decide)
    readsAsWritten_workFiles).2 _ _ rfl

/-- Nothing is at an empty path, but the working directory is moved. -/
theorem moveToTrash_empty :
    workFiles.lstat "" = .error .noEntry ∧
      ∃ later, moveToTrash homeHost "" workFiles = .ok ⟨.slash, ["h", ".Trash", "w"]⟩ later ∧
        later.get? ["w"] = none :=
  ⟨rfl, _, rfl, rfl⟩

end SafeDelete
