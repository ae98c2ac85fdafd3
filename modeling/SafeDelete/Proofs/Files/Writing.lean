/-
Module: SafeDelete.Proofs.Files.Writing
Purpose: A write puts one file at one place, where every later lookup of the path finds it.
Main exports: FileSystem.Writes, FileSystem.write_eq_ok, FileSystem.Writes.chmod,
  FileSystem.Writes.read, FileSystem.Writes.wellformed
-/
import SafeDelete.Files.Operations
import SafeDelete.Proofs.Files.Growth

namespace SafeDelete.FileSystem

/-! ## Lookups that end at a free name or a file -/

/-- The place that a path leads to, whether or not something is there. -/
def Target.place : Target → Place
  | .present place _ => place
  | .absent directory name => directory ++ [name]

variable {files later : FileSystem} {ending : Ending} {here place directory : Place} {name : Text}
  {names₁ : List Text} {used : Nat} {target : Target} {entry : Entry} {path : Text}

/-- A free name that is found is one that an entry can have, in a directory that is there. -/
theorem Leads.hasDirectory_of_absent (leads : Leads files ending here names₁ used target)
    (absent : target = .absent directory name) (wellformed : files.Wellformed)
    (begin : files.IsStation here) (noSlash : ∀ part ∈ names₁, '/' ∉ part) :
    files.HasDirectory directory ∧ IsName name := by
  induction leads with
  | here => cases absent
  | stay _ _ ih => exact ih absent begin fun part mem => noSlash part (List.mem_cons_of_mem _ mem)
  | up _ ih =>
      exact ih absent (wellformed.isStation_dropLast begin) fun part mem =>
        noSlash part (List.mem_cons_of_mem _ mem)
  | absent admits =>
      cases absent
      exact ⟨begin.hasDirectory admits.stands,
        ⟨admits.nonempty, admits.ne_itself, admits.ne_above, noSlash _ List.mem_cons_self⟩⟩
  | last => cases absent
  | enter _ _ found _ ih =>
      exact ih absent (HasDirectory.isStation ⟨_, found⟩) fun part mem =>
        noSlash part (List.mem_cons_of_mem _ mem)
  | @link here _ rest text _ _ _ _ _ _ ih =>
      refine ih absent ?_ fun part mem => ?_
      · unfold start
        split
        · exact .root files
        · exact begin
      · rcases List.mem_append.mp mem with ofLink | onward
        · exact PathName.slash_not_mem_of_mem_names ofLink
        · exact noSlash part (List.mem_cons_of_mem _ onward)

/-- What was put at the end of a path is found there. -/
theorem Leads.put (leads : Leads files .written here names₁ used target)
    (continues : Continues files later) (put : later.get? target.place = some entry)
    (plain : ∀ text, entry ≠ .link text) :
    Leads later .followed here names₁ used (.present target.place entry) := by
  have admits' : ∀ {here : Place} {name : Text} {rest : List Text},
      Admits .written here name rest → Admits .followed here name rest := fun admits =>
    { admits with writable := by simp }
  induction leads with
  | @here here =>
      have found := @Leads.here later .followed here
      rw [show later.get? here = some entry from put] at found
      exact found
  | stay empty _ ih => exact .stay empty (ih put)
  | up _ ih => exact .up (ih put)
  | absent admits => exact .last (admits' admits) put fun text same => absurd same (plain text)
  | last admits => exact .last (admits' admits) put fun text same => absurd same (plain text)
  | enter admits more found _ ih =>
      obtain ⟨mode, kept⟩ := continues.directory _ ⟨_, found⟩
      exact .enter (admits' admits) more kept (ih put)
  | link admits _ found _ ih =>
      exact .link (admits' admits) (by simp) (continues.link _ _ found) (ih put)

/-! ## Writing a file -/

theorem insert_insert (files : FileSystem) (place : Place) (first second : Entry) :
    (files.insert place first).insert place second = files.insert place second := by
  simp [insert, without]

/-- The path leads to the place, links followed, and a file can be written there. -/
inductive Writes (files : FileSystem) (path : Text) : Place → Prop
  | fresh {directory : Place} {name : Text}
      (arrives : files.resolve .written path = .ok (.absent directory name))
      (free : files.get? (directory ++ [name]) = none) :
      Writes files path (directory ++ [name])
  | existing {place : Place} {mode : Nat} {content : Bytes}
      (arrives : files.resolve .written path = .ok (.present place (.file mode content)))
      (there : files.get? place = some (.file mode content)) : Writes files path place

theorem write_eq_ok {content : Bytes} (written : files.write path content = .ok later) :
    ∃ place mode, files.Writes path place ∧ later = files.insert place (.file mode content) := by
  unfold write changeFile at written
  split at written
  · contradiction
  · rename_i directory name arrives
    obtain rfl := Except.ok.inj written
    obtain ⟨_, _, _, _, leads⟩ := resolve_text_eq_ok_iff.mp arrives
    exact ⟨directory ++ [name], newFileMode, .fresh arrives leads.isIn, rfl⟩
  · rename_i place mode old arrives
    obtain rfl := Except.ok.inj written
    obtain ⟨_, _, _, _, leads⟩ := resolve_text_eq_ok_iff.mp arrives
    refine ⟨place, mode, .existing arrives ?_, rfl⟩
    have same : Entry.file mode old = (files.get? place).getD (.directory 0o755) := leads.isIn
    cases there : files.get? place with
    | none => simp [there] at same
    | some entry => rw [same, there, Option.getD_some]
  · contradiction

namespace Writes

theorem arrives (writes : files.Writes path place) :
    ∃ target, files.resolve .written path = .ok target ∧ target.place = place := by
  cases writes with
  | fresh arrives => exact ⟨_, arrives, rfl⟩
  | existing arrives => exact ⟨_, arrives, rfl⟩

theorem plain (writes : files.Writes path place) (there : files.get? place = some entry) :
    ∃ mode content, entry = .file mode content := by
  cases writes with
  | fresh _ free => simp [free] at there
  | existing _ file => exact ⟨_, _, Option.some.inj (there.symm.trans file)⟩

theorem ne_nil (writes : files.Writes path place) : place ≠ [] := by
  rintro rfl
  obtain ⟨mode, content, same⟩ := writes.plain (get?_root files)
  cases same

theorem get?_insert (writes : files.Writes path place) (entry : Entry) (other : Place) :
    (files.insert place entry).get? other =
      if other = place then some entry else files.get? other :=
  FileSystem.get?_insert files writes.ne_nil entry other

/-- A file that is written keeps no directory and no link from being where it was. -/
theorem continues (writes : files.Writes path place) (entry : Entry) :
    Continues files (files.insert place entry) where
  directory := by
    rintro other ⟨mode, there⟩
    refine ⟨mode, ?_⟩
    rw [writes.get?_insert, if_neg, there]
    rintro rfl
    obtain ⟨_, _, same⟩ := writes.plain there
    cases same
  link := by
    intro other text there
    rw [writes.get?_insert, if_neg, there]
    rintro rfl
    obtain ⟨_, _, same⟩ := writes.plain there
    cases same

/-- A file that is written makes no directory and no link. -/
theorem continued (writes : files.Writes path place) (mode : Nat) (content : Bytes) :
    Continues (files.insert place (.file mode content)) files where
  directory := by
    rintro other ⟨mode, there⟩
    rw [writes.get?_insert] at there
    split at there
    · cases there
    · exact ⟨mode, there⟩
  link := by
    intro other text there
    rw [writes.get?_insert] at there
    split at there
    · cases there
    · exact there

theorem wellformed (writes : files.Writes path place) (wellformed : files.Wellformed)
    (mode : Nat) (content : Bytes) : (files.insert place (.file mode content)).Wellformed := by
  have plain : ¬files.HasDirectory place := by
    rintro ⟨mode, there⟩
    obtain ⟨_, _, same⟩ := writes.plain there
    cases same
  cases writes with
  | fresh arrives =>
      obtain ⟨_, _, used, _, leads⟩ := resolve_text_eq_ok_iff.mp arrives
      have begin : files.IsStation (start files.workingDirectory path) := by
        unfold start
        split
        · exact .root files
        · exact wellformed.working
      obtain ⟨here, named⟩ := leads.hasDirectory_of_absent rfl wellformed begin
        fun _ => PathName.slash_not_mem_of_mem_names
      exact wellformed.insert here named fun there => absurd there plain
  | existing _ there =>
      rcases List.eq_nil_or_concat place with rfl | ⟨directory, name, rfl⟩
      · exact absurd (HasDirectory.root files) plain
      · rw [List.concat_eq_append] at *
        have present : files.get? (directory ++ [name]) ≠ none := by simp [there]
        exact wellformed.insert (wellformed.parent _ _ present) (wellformed.name _ _ present)
          fun there => absurd there plain

/-- A file that was just written is found at its path. -/
theorem find (writes : files.Writes path place) (mode : Nat) (content : Bytes) :
    (files.insert place (.file mode content)).resolve .followed path =
      .ok (.present place (.file mode content)) := by
  obtain ⟨target, arrives, rfl⟩ := writes.arrives
  obtain ⟨some, short, used, few, leads⟩ := resolve_text_eq_ok_iff.mp arrives
  refine resolve_text_eq_ok_iff.mpr ⟨some, short, used, few, ?_⟩
  exact leads.put (writes.continues _) (by rw [writes.get?_insert, if_pos rfl]) (by simp)

/-- The permissions of a file that was just written can be set. -/
theorem chmod (writes : files.Writes path place) (mode asked : Nat) (content : Bytes) :
    (files.insert place (.file mode content)).chmod path asked =
      .ok (files.insert place (.file asked content)) := by
  simp only [FileSystem.chmod, stat, FileSystem.find, writes.find, insert_insert]

/-- What was just written is read. -/
theorem read (writes : files.Writes path place) (mode : Nat) (content : Bytes) :
    (files.insert place (.file mode content)).read path = .ok content := by
  simp only [FileSystem.read, stat, FileSystem.find, writes.find]

/-- A path that ends at no link is written at itself, and not where a link leads. -/
theorem exists_reaches {path : PathName} (writes : files.Writes path.toText place)
    (named : path.IsNamed)
    (unlinked : ∀ directory, files.Reaches path directory path.name →
      ∀ text, files.get? (directory ++ [path.name]) ≠ some (.link text)) :
    ∃ directory, files.Reaches path directory path.name ∧ place = directory ++ [path.name] := by
  obtain ⟨target, arrives, rfl⟩ := writes.arrives
  obtain ⟨short, used, few, leads⟩ :=
    (resolve_toText_eq_ok_iff named.proper).mp arrives
  obtain ⟨front, parts⟩ := named.exists_parts
  rw [parts, leads_concat_iff fun _ => named.named.nonempty] at leads
  obtain ⟨links, second, directory, rfl, walks, leads⟩ := leads
  have reaches : ∀ {rest : List Text}, Admits .written directory path.name rest →
      files.Reaches path directory path.name := fun admits =>
    ⟨short, ⟨front, parts, links, Nat.le_of_add_right_le few, walks⟩, admits.kept⟩
  have isName := named.named
  generalize path.name = last at isName leads reaches unlinked
  cases leads with
  | stay empty => exact absurd empty (by simp [isName.nonempty, isName.ne_itself])
  | up => exact absurd rfl isName.ne_above
  | absent admits => exact ⟨directory, reaches admits, rfl⟩
  | last admits => exact ⟨directory, reaches admits, rfl⟩
  | enter _ more => exact absurd rfl more
  | link admits _ found => exact absurd found (unlinked directory (reaches admits) _)

/-- Where nothing is at a path, it is written at the path itself. -/
theorem reaches_of_free {path : PathName} (writes : files.Writes path.toText place)
    (named : path.IsNamed) (free : files.isTaken path.toText = false) :
    ∃ directory name, files.Reaches path directory name ∧
      files.get? (directory ++ [name]) = none ∧ place = directory ++ [name] := by
  have untaken : ∀ directory, files.Reaches path directory path.name →
      files.get? (directory ++ [path.name]) = none := by
    intro directory reaches
    by_contra present
    have taken := (isTaken_iff named).mpr ⟨directory, path.name, reaches, present⟩
    exact absurd (taken.symm.trans free) (by decide)
  obtain ⟨directory, reaches, rfl⟩ :=
    writes.exists_reaches named fun directory reaches text found =>
      absurd ((untaken directory reaches).symm.trans found) (by simp)
  exact ⟨directory, path.name, reaches, untaken directory reaches, rfl⟩

end Writes

end SafeDelete.FileSystem
