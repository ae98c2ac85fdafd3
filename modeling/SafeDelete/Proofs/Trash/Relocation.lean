/-
Module: SafeDelete.Proofs.Trash.Relocation
Purpose: Where an entry is once it was moved, by a rename or by a copy.
Main exports: Relocates, relocateEntry_eq_ok
-/
import SafeDelete.Proofs.Trash.FreeName
import SafeDelete.Proofs.Trash.Stages

namespace SafeDelete

open FileSystem

namespace FileSystem

variable {files : FileSystem} {ending : Ending} {here place directory : Place} {names₁ : List Text}
  {used : Nat} {entry : Entry} {path : Text}

theorem entry_eq_of_lstat (found : files.lstat path = .ok (place, entry)) :
    entry = (files.get? place).getD (.directory 0o755) := by
  unfold lstat find at found
  split at found
  · rename_i there
    cases found
    obtain ⟨_, _, _, _, leads⟩ := resolve_text_eq_ok_iff.mp there
    exact leads.isIn
  · contradiction
  · contradiction

/-- What is above a directory is one. -/
theorem Wellformed.hasDirectory_above (wellformed : files.Wellformed)
    (below : files.HasDirectory directory) (above : place <+: directory) :
    files.HasDirectory place := by
  by_cases same : place = directory
  · exact same ▸ below
  · exact wellformed.hasDirectory_of_above below.present above same

theorem isDirectory_of_lstat (wellformed : files.Wellformed)
    (found : files.lstat path = .ok (place, entry)) (below : files.HasDirectory directory)
    (above : place <+: directory) : entry.isDirectory = true := by
  obtain ⟨mode, here⟩ := wellformed.hasDirectory_above below above
  rw [entry_eq_of_lstat found, here]
  rfl

end FileSystem

/-- What a move of the entry at `place` to a name in a directory leaves. -/
inductive Relocates (files : FileSystem) (place directory : Place) (name : Text) :
    FileSystem → Prop
  /-- The entry is at the free name now. -/
  | renamed (free : files.get? (directory ++ [name]) = none) (outside : ¬place <+: directory) :
      Relocates files place directory name (files.relocate place (directory ++ [name]))
  /-- The directory was copied right inside itself, and removed with the copy. -/
  | swallowed (free : files.get? (directory ++ [name]) = none) (same : directory = place) :
      Relocates files place directory name (files.eraseTree place)
  /-- The entry was there already. -/
  | stayed (same : directory ++ [name] = place) : Relocates files place directory name files
  /-- The entry is where another one was. -/
  | replaced (taken : files.get? (directory ++ [name]) ≠ none)
      (bare : ∀ other, directory ++ [name] <+: other → directory ++ [name] ≠ other →
        files.get? other = none)
      (apart : ¬place <+: directory ++ [name]) (apart' : ¬directory ++ [name] <+: place) :
      Relocates files place directory name (files.relocate place (directory ++ [name]))

variable {files later : FileSystem} {destination : PathName} {origin : Text}
  {place directory : Place} {name : Text} {entry : Entry}

theorem rename_of_free (found : files.lstat origin = .ok (place, entry)) (proper : place ≠ [])
    (arrives : files.resolve .kept destination.toText = .ok (.absent directory name))
    (outside : ¬place <+: directory) :
    files.rename origin destination.toText = .ok (files.relocate place (directory ++ [name])) := by
  cases place with
  | nil => exact absurd rfl proper
  | cons first rest => simp [rename, found, arrives, outside]

/-- What may be replaced has nothing below it. -/
theorem bare_of_mayReplace (wellformed : files.Wellformed) {replaced : Entry}
    (there : files.get? place = some replaced)
    (may : files.mayReplace entry place replaced = .ok ()) {other : Place} (below : place <+: other)
    (apart : place ≠ other) : files.get? other = none := by
  by_cases plain : files.HasDirectory place
  · obtain ⟨mode, here⟩ := plain
    obtain rfl := Option.some.inj (here.symm.trans there)
    simp only [mayReplace] at may
    split at may
    · contradiction
    split at may
    · rename_i empty
      rw [List.isEmpty_iff, FileSystem.below, List.filter_eq_nil_iff] at empty
      by_contra present
      have proper : other ≠ [] := fun root => apart (List.prefix_nil.mp (root ▸ below) ▸ root.symm)
      obtain ⟨found, mem, rfl⟩ := List.mem_map.mp (mem_places_of_get? proper present)
      exact empty found mem (by simpa [Ne.symm apart] using below)
    · contradiction
  · exact wellformed.absent_below plain below apart

/-- A rename that succeeds found an entry other than the root, and a name for it. -/
theorem rename_eq_ok (wellformed : files.Wellformed) (named : destination.IsNamed)
    (done : files.rename origin destination.toText = .ok later) :
    ∃ place entry directory name, files.lstat origin = .ok (place, entry) ∧ place ≠ [] ∧
      files.Reaches destination directory name ∧ Relocates files place directory name later := by
  unfold rename at done
  split at done
  · contradiction
  · contradiction
  · rename_i place entry notRoot found
    have proper : place ≠ [] := fun root => notRoot root
    split at done
    · contradiction
    · rename_i directory name arrives
      obtain ⟨reaches, free⟩ := reaches_of_absent named.proper arrives
      split at done
      · contradiction
      · rename_i outside
        obtain rfl := Except.ok.inj done
        exact ⟨place, entry, directory, name, found, proper, reaches,
          .renamed free (by simpa using outside)⟩
    · contradiction
    · rename_i other replaced _ arrives
      obtain ⟨directory, name, reaches, target⟩ := (resolve_eq_ok_iff named).mp arrives
      obtain ⟨rfl, there⟩ := targetAt_eq_present_iff.mp target.symm
      refine ⟨place, entry, directory, name, found, proper, reaches, ?_⟩
      split at done
      · rename_i same
        obtain rfl := Except.ok.inj done
        exact .stayed same
      split at done
      · contradiction
      split at done
      · contradiction
      split at done
      · contradiction
      rename_i apart apart' _ may
      obtain rfl := Except.ok.inj done
      exact .replaced (by simp [there]) (fun _ => bare_of_mayReplace wellformed there may)
        (by simpa using apart) (by simpa using apart')

/-- Nothing is made at the destination of an entry that is no directory: it could have been
renamed. -/
theorem create_ne_ok_of_refused {put : Entry} (wellformed : files.Wellformed)
    (named : destination.IsNamed)
    (refused : ∀ later, files.rename origin destination.toText ≠ .ok later)
    (found : files.lstat origin = .ok (place, entry)) (plain : entry.isDirectory = false) :
    files.create destination.toText put ≠ .ok later := by
  intro created
  obtain ⟨directory, name, reaches, free, -⟩ := create_eq_ok named.proper created
  have arrives := resolve_of_reaches named reaches
  rw [targetAt_of_absent free] at arrives
  have outside : ¬place <+: directory := fun above =>
    absurd (isDirectory_of_lstat wellformed found (reaches.hasDirectory wellformed) above)
      (by simp [plain])
  have proper : place ≠ [] := fun root => outside (root ▸ List.nil_prefix)
  exact refused _ (rename_of_free found proper arrives outside)

/-- What was not renamed is copied only where it is a directory that goes right inside
itself. -/
theorem moveByCopy_eq_ok (wellformed : files.Wellformed) (named : destination.IsNamed)
    (refused : ∀ later, files.rename origin destination.toText ≠ .ok later)
    (done : moveByCopy origin destination.toText files = .ok () later) :
    ∃ place entry directory name, files.lstat origin = .ok (place, entry) ∧ place ≠ [] ∧
      files.Reaches destination directory name ∧ Relocates files place directory name later := by
  unfold moveByCopy at done
  split at done
  · contradiction
  · rename_i place target found
    split at done
    · contradiction
    · rename_i made linked
      unfold symlink at linked
      split at linked
      · contradiction
      split at linked
      · contradiction
      exact absurd linked (create_ne_ok_of_refused wellformed named refused found rfl)
  · rename_i place mode found
    unfold moveDirectoryByCopy at done
    split at done
    · contradiction
    · contradiction
    split at done
    · contradiction
    · contradiction
    · rename_i directory name arrives
      split at done
      · rename_i inside
        cases done
        obtain ⟨reaches, free⟩ := reaches_of_absent named.proper arrives
        exact ⟨place, _, directory, name, found, inside.2, reaches, .swallowed free inside.1⟩
      · contradiction
  · rename_i place mode content found
    split at done
    · contradiction
    · rename_i made created
      exact absurd created (create_ne_ok_of_refused wellformed named refused found rfl)

/-- A move that succeeds found an entry other than the root, and a name for it. -/
theorem relocateEntry_eq_ok (wellformed : files.Wellformed) (named : destination.IsNamed)
    (done : relocateEntry origin destination.toText files = .ok () later) :
    ∃ place entry directory name, files.lstat origin = .ok (place, entry) ∧ place ≠ [] ∧
      files.Reaches destination directory name ∧ Relocates files place directory name later := by
  unfold relocateEntry at done
  split at done
  · rename_i renamed
    cases done
    exact rename_eq_ok wellformed named renamed
  · rename_i errno refused
    exact moveByCopy_eq_ok wellformed named (by simp [refused]) done

namespace Relocates

/-- An entry whose new name is free is at that name now, unless it was swallowed. -/
theorem eq_relocate (moved : Relocates files place directory name later)
    (there : files.get? place ≠ none) (free : files.get? (directory ++ [name]) = none)
    (apart : directory ≠ place) :
    ¬place <+: directory ∧ later = files.relocate place (directory ++ [name]) := by
  cases moved with
  | renamed _ outside => exact ⟨outside, rfl⟩
  | swallowed _ same => exact absurd same apart
  | stayed same => exact absurd (same ▸ free) there
  | replaced taken => exact absurd free taken

theorem get?_relocate_lost (proper : place ≠ []) (there : files.get? place ≠ none)
    (apart : ¬place <+: directory ++ [name]) (apart' : ¬directory ++ [name] <+: place)
    (bare : ∀ other, directory ++ [name] <+: other → directory ++ [name] ≠ other →
      files.get? other = none) :
    (files.relocate place (directory ++ [name])).get? place = none ∧
      ∀ other, files.get? other ≠ none →
        (files.relocate place (directory ++ [name])).get? other = none → place <+: other := by
  have get := get?_relocate files proper apart apart'
  refine ⟨by rw [get, if_neg apart', if_pos List.prefix_rfl], fun other old lost => ?_⟩
  rw [get] at lost
  split at lost
  · rename_i below
    by_cases same : directory ++ [name] = other
    · subst same
      simp [there] at lost
    · exact absurd (bare other below same) old
  · split at lost
    · assumption
    · exact absurd lost old

/-- The entry is no longer where it was, and all that is lost was it or below it. -/
theorem lost (moved : Relocates files place directory name later) (wellformed : files.Wellformed)
    (proper : place ≠ []) (there : files.get? place ≠ none) (leaves : directory ++ [name] ≠ place) :
    later.get? place = none ∧
      ∀ other, files.get? other ≠ none → later.get? other = none → place <+: other := by
  cases moved with
  | renamed free outside =>
      obtain ⟨apart, apart'⟩ := wellformed.apart there free outside
      exact get?_relocate_lost proper there apart apart' fun other below _ =>
        wellformed.absent_of_above free below
  | swallowed =>
      have get := get?_eraseTree files proper
      refine ⟨by rw [get, if_pos List.prefix_rfl], fun other old lost => ?_⟩
      rw [get] at lost
      split at lost
      · assumption
      · exact absurd lost old
  | stayed same => exact absurd same leaves
  | replaced _ bare apart apart' => exact get?_relocate_lost proper there apart apart' bare

end Relocates

end SafeDelete
