/-
Module: SafeDelete.Proofs.Trash.FreeName
Purpose: The path chosen for an entry of the trash is in the directory asked for, and free.
Main exports: FileSystem.namesIn, Probes, exists_least_free, freeName_is_first_free,
  exists_freePathIn, proper_freePathIn
-/
import Mathlib.Data.List.Dedup
import Mathlib.Data.List.Perm.Subperm
import Mathlib.Data.Nat.Find
import Mathlib.Order.Bounds.Basic
import SafeDelete.Proofs.Files.Directories
import SafeDelete.Proofs.Files.Numbering
import SafeDelete.Trash.Move

namespace SafeDelete

open FileSystem

/-! ## Names in a directory -/

theorem mem_places_of_get? {files : FileSystem} {place : Place} (proper : place ≠ [])
    (there : files.get? place ≠ none) : place ∈ files.entries.map Prod.fst := by
  rw [get?_of_ne_nil files proper] at there
  obtain ⟨found, eq⟩ := Option.ne_none_iff_exists'.mp there
  obtain ⟨entry, mem, rfl⟩ := Option.map_eq_some_iff.mp eq
  have here := List.find?_some mem
  exact List.mem_map.mpr ⟨entry, List.mem_of_find?_eq_some mem, by simpa using here⟩

theorem get?_ne_none_of_mem {files : FileSystem} {entry : Place × Entry} (proper : entry.1 ≠ [])
    (mem : entry ∈ files.entries) : files.get? entry.1 ≠ none := by
  rw [get?_of_ne_nil files proper, ne_eq, Option.map_eq_none_iff, List.find?_eq_none]
  exact fun absent => absent entry mem (by simp)

namespace FileSystem

/-- The names of the entries in a directory, each of them once. -/
def namesIn (files : FileSystem) (directory : Place) : List Text :=
  (files.entries.filterMap fun entry =>
    if entry.1.dropLast = directory then entry.1.getLast? else none).dedup

variable {files : FileSystem} {path : PathName} {directory : Place} {name : Text}

theorem mem_namesIn_iff :
    name ∈ files.namesIn directory ↔ files.get? (directory ++ [name]) ≠ none := by
  rw [namesIn, List.mem_dedup, List.mem_filterMap]
  constructor
  · rintro ⟨entry, mem, named⟩
    obtain ⟨above, last⟩ : entry.1.dropLast = directory ∧ entry.1.getLast? = some name := by
      simpa using named
    have place : entry.1 = directory ++ [name] := by
      rw [← above, List.dropLast_append_getLast? name last]
    exact place ▸ get?_ne_none_of_mem (by simp [place]) mem
  · intro there
    obtain ⟨entry, mem, place⟩ := List.mem_map.mp (mem_places_of_get? (by simp) there)
    exact ⟨entry, mem, by simp [place]⟩

theorem length_namesIn_le (files : FileSystem) (directory : Place) :
    (files.namesIn directory).length ≤ files.entries.length :=
  (List.dedup_sublist _).length_le.trans (List.length_filterMap_le _ _)

/-- Where an entry is found, the path leads to its directory. -/
theorem exists_leadsInto_of_isTaken (proper : path.Proper)
    (taken : files.isTaken path.toText = true) :
    ∃ directory, files.LeadsInto path.parent directory := by
  cases found : files.lstat path.toText with
  | error errno => simp [isTaken, found, Except.isOk, Except.toBool] at taken
  | ok there =>
      obtain ⟨-, used, few, leads⟩ :=
        (resolve_toText_eq_ok_iff proper).mp (lstat_text_eq_ok_iff.mp found)
      obtain ⟨root, parts⟩ := path
      rcases List.eq_nil_or_concat parts with rfl | ⟨front, last, rfl⟩
      · exact ⟨_, 0, Nat.zero_le _, .done⟩
      · rw [List.concat_eq_append, leads_concat_iff (by simp)] at leads
        obtain ⟨first, second, directory, rfl, walks, -⟩ := leads
        refine ⟨directory, first, Nat.le_of_add_right_le few, ?_⟩
        simpa [PathName.parent] using walks

/-- The name of a taken path is one of those in its directory. -/
theorem mem_namesIn_of_isTaken (named : path.IsNamed)
    (into : files.LeadsInto path.parent directory) (taken : files.isTaken path.toText = true) :
    path.name ∈ files.namesIn directory := by
  obtain ⟨other, name, reaches, there⟩ := (isTaken_iff named).mp taken
  obtain rfl := reaches.name_eq
  obtain ⟨front, parts⟩ := named.exists_parts
  have parent : path.parent = ⟨path.root, front⟩ := by simp [PathName.parent, parts]
  have whole : path = ⟨path.root, front ++ [path.name]⟩ := by rw [← parts]
  rw [whole] at reaches
  rw [parent] at into
  rw [into.unique reaches.leadsInto]
  exact mem_namesIn_iff.mpr there

end FileSystem

/-! ## The first free number -/

variable {files : FileSystem} {path found : PathName} {directory : Place} {number count : Nat}

/-- Looking at one numbered path after the other, from the given number on, finds the first one that
is free, and looks at so many of them, the free one included. -/
inductive Probes (files : FileSystem) (path : PathName) :
    (number count : Nat) → (found : PathName) → Prop where
  | free {number : Nat} (free : files.isTaken (path.numbered number).toText = false) :
      Probes files path number 1 (path.numbered number)
  | taken {number count : Nat} {found : PathName}
      (taken : files.isTaken (path.numbered number).toText = true)
      (onward : Probes files path (number + 1) count found) :
      Probes files path number (count + 1) found

/-- All numbers but the last one looked at are taken. -/
theorem probes_of_taken {last : Nat}
    (taken : ∀ k < last, files.isTaken (path.numbered (number + k)).toText = true)
    (free : files.isTaken (path.numbered (number + last)).toText = false) :
    Probes files path number (last + 1) (path.numbered (number + last)) := by
  induction last generalizing number with
  | zero => exact .free free
  | succ last ih =>
      have next : ∀ k, number + 1 + k = number + (k + 1) := fun k => Nat.add_right_comm number 1 k
      have onward := ih (fun k few => next k ▸ taken (k + 1) (Nat.succ_lt_succ few))
        (next last ▸ free)
      rw [next] at onward
      exact .taken (taken 0 (Nat.succ_pos last)) onward

/-- With enough tries the search finds what looking without an end does. -/
theorem Probes.firstFree_eq (probes : Probes files path number count found) {tries : Nat}
    (enough : count ≤ tries + 1) : firstFree files path tries number = found := by
  induction probes generalizing tries with
  | free free =>
      cases tries with
      | zero => rfl
      | succ tries => rw [firstFree, free, if_neg Bool.false_ne_true]
  | taken taken onward ih =>
      cases tries with
      | zero => cases onward <;> omega
      | succ tries => rw [firstFree, taken, if_pos rfl, ih (Nat.le_of_succ_le_succ enough)]

/-- Taken numbers are different names in one directory. -/
theorem le_length_namesIn_of_taken (proper : path.Proper)
    (into : files.LeadsInto path.parent directory) {tries : Nat}
    (taken : ∀ k < tries, files.isTaken (path.numbered (number + k)).toText = true) :
    tries ≤ (files.namesIn directory).length := by
  have distinct : ((List.range tries).map fun k =>
      PathName.numberedName path.name (number + k)).Nodup :=
    List.nodup_range.map fun k l same =>
      Nat.add_left_cancel (PathName.numberedName_injective same)
  have within : ((List.range tries).map fun k =>
      PathName.numberedName path.name (number + k)) ⊆ files.namesIn directory := by
    intro name mem
    obtain ⟨k, few, rfl⟩ := List.mem_map.mp mem
    have named := PathName.isNamed_numbered proper (number + k)
    have inDirectory := mem_namesIn_of_isTaken named (path.parent_numbered _ ▸ into)
      (taken k (List.mem_range.mp few))
    rwa [PathName.name_numbered] at inDirectory
  simpa using (List.subperm_of_subset distinct within).length_le

/-- Counting up from one, the least number that is free is found before the names of the directory
are used up. -/
theorem exists_least_free (proper : path.Proper) (into : files.LeadsInto path.parent directory) :
    ∃ number ≤ (files.namesIn directory).length + 1,
      IsLeast {n | 1 ≤ n ∧ files.isTaken (path.numbered n).toText = false} number ∧
        Probes files path 1 number (path.numbered number) := by
  have some : ∃ last, files.isTaken (path.numbered (1 + last)).toText = false := by
    by_contra none
    have all : ∀ k < (files.namesIn directory).length + 1,
        files.isTaken (path.numbered (1 + k)).toText = true := fun k _ =>
      Bool.of_not_eq_false fun free => none ⟨k, free⟩
    exact absurd (le_length_namesIn_of_taken proper into all) (Nat.not_succ_le_self _)
  have taken : ∀ k < Nat.find some, files.isTaken (path.numbered (1 + k)).toText = true :=
    fun k few => Bool.of_not_eq_false (Nat.find_min some few)
  have few := le_length_namesIn_of_taken proper into taken
  have least : ∀ n, 1 ≤ n → files.isTaken (path.numbered n).toText = false →
      Nat.find some + 1 ≤ n := by
    intro n positive free
    obtain ⟨k, rfl⟩ := Nat.exists_eq_add_of_le positive
    have above := Nat.find_min' some free
    omega
  have probes := probes_of_taken taken (Nat.find_spec some)
  have free := Nat.find_spec some
  rw [Nat.add_comm 1] at probes free
  exact ⟨Nat.find some + 1, Nat.succ_le_succ few,
    ⟨⟨Nat.le_add_left 1 _, free⟩, fun n ⟨positive, free⟩ => least n positive free⟩, probes⟩

/-- The free path for a taken one has the least number that is free. -/
theorem freeName_of_isTaken (proper : path.Proper) (named : path.name ≠ [])
    (taken : files.isTaken path.toText = true) :
    ∃ directory, files.LeadsInto path.parent directory ∧
      ∃ number ≤ (files.namesIn directory).length + 1,
        IsLeast {n | 1 ≤ n ∧ files.isTaken (path.numbered n).toText = false} number ∧
          Probes files path 1 number (path.numbered number) ∧
          freeName files path = .ok (path.numbered number) := by
  obtain ⟨directory, into⟩ := exists_leadsInto_of_isTaken proper taken
  obtain ⟨number, few, least, probes⟩ := exists_least_free proper into
  have within := length_namesIn_le files directory
  have some : path.name.isEmpty = false := by simpa using named
  have first : firstFree files path (files.entries.length + 1) 1 = path.numbered number :=
    probes.firstFree_eq (by omega)
  exact ⟨directory, into, number, few, least, probes, by simp [freeName, taken, some, first]⟩

/-- The free path for a path with a name is in the same directory, and nothing is there, not even a
link to nothing.  It is the path itself, where that is free, and otherwise the path with the least
number in its name that makes it free.  Different numbers make different names, so that the search
looks at no more than one path beyond the names of the directory. -/
theorem freeName_is_first_free (proper : path.Proper) (named : path.name ≠ []) :
    ∃ chosen, freeName files path = .ok chosen ∧ chosen.parent = path.parent ∧
      files.isTaken chosen.toText = false ∧
      (∀ directory, files.Reaches chosen directory chosen.name →
        chosen.name ∉ files.namesIn directory) ∧
      (files.isTaken path.toText = false → chosen = path) ∧
      (files.isTaken path.toText = true →
        ∃ stem suffix number directory,
          PathName.IsCut path.name stem suffix ∧
          Function.Injective (fun n => stem ++ " " ++ decimal n ++ suffix) ∧
          IsLeast {n | 1 ≤ n ∧ files.isTaken
            (path.withName (stem ++ " " ++ decimal n ++ suffix)).toText = false} number ∧
          chosen = path.withName (stem ++ " " ++ decimal number ++ suffix) ∧
          Probes files path 1 number chosen ∧
          files.LeadsInto path.parent directory ∧
          number ≤ (files.namesIn directory).length + 1) := by
  have nothing : ∀ {chosen : PathName}, chosen.Proper → files.isTaken chosen.toText = false →
      ∀ directory, files.Reaches chosen directory chosen.name →
        chosen.name ∉ files.namesIn directory := by
    intro chosen proper free directory reaches mem
    have there := (isTaken_iff ⟨proper, reaches.isName proper⟩).mpr
      ⟨directory, chosen.name, reaches, mem_namesIn_iff.mp mem⟩
    exact absurd (there.symm.trans free) (by decide)
  cases taken : files.isTaken path.toText with
  | false =>
      exact ⟨path, by simp [freeName, taken], rfl, taken, nothing proper taken, fun _ => rfl,
        fun absurd => Bool.noConfusion absurd⟩
  | true =>
      obtain ⟨directory, into, number, few, least, probes, eq⟩ :=
        freeName_of_isTaken proper named taken
      have free := least.1.2
      have chosen := (PathName.isNamed_numbered proper number).proper
      exact ⟨path.numbered number, eq, path.parent_numbered number, free, nothing chosen free,
        fun absurd => Bool.noConfusion absurd, fun _ => ⟨_, _, number, directory,
        PathName.isCut_splitName path.name, fun _ _ => PathName.numberedName_injective, least, rfl,
        probes, into, few⟩⟩

/-- A link to nothing, and the first of the names for another entry like it. -/
def numberedFiles : FileSystem where
  entries := [(["d"], .directory 0o755), (["d", "a.tar.gz"], .link "gone"),
    (["d", "a.tar 1.gz"], .file 0o644 [])]
  workingDirectory := []

theorem freeName_numberedFiles :
    (PathName.ofText "/d/a.tar.gz").Proper ∧ (PathName.ofText "/d/a.tar.gz").name ≠ [] ∧
      numberedFiles.isTaken (PathName.ofText "/d/a.tar.gz").toText = true ∧
      freeName numberedFiles (PathName.ofText "/d/a.tar.gz") =
        .ok (PathName.ofText "/d/a.tar 2.gz") ∧
      ∃ number directory,
        Probes numberedFiles (PathName.ofText "/d/a.tar.gz") 1 number
          (PathName.ofText "/d/a.tar 2.gz") ∧
        numberedFiles.LeadsInto (PathName.ofText "/d/a.tar.gz").parent directory ∧
        number ≤ (numberedFiles.namesIn directory).length + 1 := by
  have proper := PathName.proper_ofText "/d/a.tar.gz"
  have named : (PathName.ofText "/d/a.tar.gz").name ≠ [] := by decide
  have taken : numberedFiles.isTaken (PathName.ofText "/d/a.tar.gz").toText = true := by decide
  have second : freeName numberedFiles (PathName.ofText "/d/a.tar.gz") =
      .ok (PathName.ofText "/d/a.tar 2.gz") := by decide
  obtain ⟨chosen, eq, -, -, -, -, numbers⟩ := freeName_is_first_free proper named
  obtain rfl := Except.ok.inj (second.symm.trans eq)
  obtain ⟨_, _, number, directory, -, -, -, -, probes, into, few⟩ := numbers taken
  exact ⟨proper, named, taken, second, number, directory, probes, into, few⟩

/-! ## A free path in a directory -/

theorem freePathIn_of_free {directory : PathName} {name : Text}
    (free : files.isTaken (directory.below name).toText = false) :
    freePathIn directory name files = directory.below name := by
  simp [freePathIn, freeName, free]

theorem freePathIn_of_isTaken {directory : PathName} (proper : directory.Proper) {name : Text}
    (named : (directory.below name).name ≠ [])
    (taken : files.isTaken (directory.below name).toText = true) :
    ∃ number, freePathIn directory name files = (directory.below name).numbered number ∧
      files.isTaken ((directory.below name).numbered number).toText = false := by
  obtain ⟨_, -, number, -, least, -, eq⟩ := freeName_of_isTaken (proper.below name) named taken
  exact ⟨number, by rw [freePathIn, eq], least.1.2⟩

theorem proper_freePathIn {directory : PathName} (proper : directory.Proper) (name : Text)
    (files : FileSystem) : (freePathIn directory name files).Proper := by
  have below := proper.below name
  cases taken : files.isTaken (directory.below name).toText with
  | false => exact freePathIn_of_free taken ▸ below
  | true =>
      by_cases named : (directory.below name).name = []
      · have same : freePathIn directory name files = directory.below name := by
          simp [freePathIn, freeName, taken, named]
        exact same ▸ below
      · obtain ⟨number, eq, -⟩ := freePathIn_of_isTaken proper named taken
        exact eq ▸ (PathName.isNamed_numbered below number).proper

/-- The path chosen for a name is that name in the directory, or the name with a number, and nothing
is there. -/
theorem exists_freePathIn {directory : PathName} (proper : directory.Proper) {name : Text}
    (named : IsName name) (files : FileSystem) :
    ∃ chosen, IsName chosen ∧
      freePathIn directory name files = ⟨directory.root, directory.parts ++ [chosen]⟩ ∧
      files.isTaken (freePathIn directory name files).toText = false := by
  have below := PathName.below_of_isName directory named
  cases taken : files.isTaken (directory.below name).toText with
  | false =>
      have chosen := freePathIn_of_free taken
      exact ⟨name, named, chosen.trans below, chosen ▸ taken⟩
  | true =>
      have nonempty : (directory.below name).name ≠ [] := by simp [below, named.nonempty]
      obtain ⟨number, chosen, free⟩ := freePathIn_of_isTaken proper nonempty taken
      refine ⟨PathName.numberedName name number,
        PathName.isName_numberedName named.noSlash number, ?_, chosen ▸ free⟩
      rw [chosen, below]
      simp [PathName.numbered, PathName.withName]

end SafeDelete
