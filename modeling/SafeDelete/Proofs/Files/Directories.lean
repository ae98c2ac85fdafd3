/-
Module: SafeDelete.Proofs.Files.Directories
Purpose: Paths that lead to directories, and what making the directories of a path does where they
  are there, and where they are not.
Main exports: FileSystem.isDirectory_iff, FileSystem.isDirectory_mono, FileSystem.LeadsInto,
  Effect.makeDirectories_of_isDirectory, Effect.IsNew, Effect.eq_or_isNew_of_makeDirectories
-/
import SafeDelete.Proofs.Files.Growth
import SafeDelete.Proofs.Files.Normal
import SafeDelete.Proofs.Text.Utf8

namespace SafeDelete

open FileSystem

namespace FileSystem

variable {files later : FileSystem} {ending : Ending} {here place directory : Place} {name : Text}
  {names₁ : List Text} {links used : Nat} {target : Target} {entry : Entry} {path : PathName}
  {text : Text}

/-! ## Lookups that end in a directory -/

/-- A lookup that follows links to a directory is a walk there. -/
theorem Leads.walks (leads : Leads files .followed here names₁ used target)
    (arrived : target = .present place entry) (directory : entry.isDirectory = true) :
    Walks files here names₁ used place := by
  induction leads with
  | here =>
      cases arrived
      exact .done
  | stay empty _ ih => exact .stay empty (ih arrived)
  | up _ ih => exact .up (ih arrived)
  | absent => cases arrived
  | last admits found kept =>
      cases arrived
      cases entry with
      | directory mode => exact .enter admits.kept found .done
      | file mode content => cases directory
      | link text => cases kept text rfl
  | enter admits _ found _ ih => exact .enter admits.kept found (ih arrived)
  | link admits _ found _ ih => exact .link admits.kept found (ih arrived)

theorem Admits.followed (admits : Admits .kept here name []) (rest : List Text) :
    Admits .followed here name rest :=
  { admits with writable := by simp }

/-- A walk is a lookup that follows links. -/
theorem Walks.leads (walks : Walks files here names₁ used place) :
    Leads files .followed here names₁ used
      (.present place ((files.get? place).getD (.directory 0o755))) := by
  induction walks with
  | done => exact .here
  | stay empty _ ih => exact .stay empty ih
  | up _ ih => exact .up ih
  | @enter _ _ _ rest mode _ admits found onward ih =>
      cases rest with
      | nil =>
          cases onward
          rw [found]
          exact .last (admits.followed []) found fun _ same => by cases same
      | cons next rest => exact .enter (admits.followed _) (List.cons_ne_nil _ _) found ih
  | link admits found _ ih => exact .link (admits.followed _) (fun _ => by simp) found ih

/-- Where names walk to a directory, something is at their end, a link taken as it is. -/
theorem Walks.exists_leads_kept (walks : Walks files here names₁ used place) :
    ∃ few ≤ used, ∃ other entry, Leads files .kept here names₁ few (.present other entry) := by
  induction walks with
  | done => exact ⟨0, Nat.le_refl _, _, _, .here⟩
  | stay empty _ ih =>
      obtain ⟨few, le, other, entry, leads⟩ := ih
      exact ⟨few, le, other, entry, .stay empty leads⟩
  | up _ ih =>
      obtain ⟨few, le, other, entry, leads⟩ := ih
      exact ⟨few, le, other, entry, .up leads⟩
  | @enter _ _ _ rest mode _ admits found onward ih =>
      cases rest with
      | nil => exact ⟨0, Nat.zero_le _, _, _, .last admits found fun _ _ => rfl⟩
      | cons next rest =>
          obtain ⟨few, le, other, entry, leads⟩ := ih
          exact ⟨few, le, other, entry,
            .enter { admits with writable := by simp } (List.cons_ne_nil _ _) found leads⟩
  | @link _ _ _ rest _ _ admits found onward ih =>
      cases rest with
      | nil => exact ⟨0, Nat.zero_le _, _, _, .last admits found fun _ _ => rfl⟩
      | cons next rest =>
          obtain ⟨few, le, other, entry, leads⟩ := ih
          exact ⟨few + 1, Nat.succ_le_succ le, other, entry,
            .link { admits with writable := by simp } (fun none => by simp at none) found leads⟩

/-- A place where a process can be counts as a directory, also where it was removed. -/
theorem IsStation.isDirectory (station : files.IsStation place) (wellformed : files.Wellformed) :
    ((files.get? place).getD (.directory 0o755)).isDirectory = true := by
  cases removed : place.isRemoved with
  | false =>
      obtain ⟨mode, found⟩ := station.hasDirectory removed
      rw [found]
      rfl
  | true =>
      have last : place.getLast? = some Place.removedName := by
        simpa [Place.isRemoved] using removed
      have gone : files.get? place = none := by
        by_contra there
        exact (wellformed.isName_of_mem there (List.mem_of_getLast? last)).nonempty rfl
      rw [gone]
      rfl

/-- The path leads to a directory, links followed. -/
def WalksTo (files : FileSystem) (text : Text) (place : Place) : Prop :=
  text ≠ [] ∧ (Utf8.encode text).length < pathLimit ∧
    ∃ used ≤ linkLimit, Walks files (start files.workingDirectory text) (names text) used place

theorem isStation_start (wellformed : files.Wellformed) (text : Text) :
    files.IsStation (start files.workingDirectory text) := by
  unfold start
  split
  · exact .root files
  · exact wellformed.working

theorem isDirectory_iff (wellformed : files.Wellformed) :
    files.isDirectory text = true ↔ ∃ place, files.WalksTo text place := by
  constructor
  · intro leads
    unfold isDirectory stat find at leads
    cases found : files.resolve .followed text with
    | error errno => simp [found] at leads
    | ok target =>
        cases target with
        | absent directory name => simp [found] at leads
        | present place entry =>
            obtain ⟨some, short, used, few, ways⟩ := resolve_text_eq_ok_iff.mp found
            simp only [found] at leads
            exact ⟨place, some, short, used, few, ways.walks rfl leads⟩
  · rintro ⟨place, some, short, used, few, walks⟩
    have station := walks.isStation wellformed (isStation_start wellformed text)
    have found := resolve_text_eq_ok_iff.mpr ⟨some, short, used, few, walks.leads⟩
    simp only [isDirectory, stat, find, found]
    exact station.isDirectory wellformed

theorem WalksTo.mono (walks : files.WalksTo text place) (continues : Continues files later)
    (stands : later.workingDirectory = files.workingDirectory) : later.WalksTo text place := by
  obtain ⟨some, short, used, few, ways⟩ := walks
  refine ⟨some, short, used, few, ?_⟩
  rw [stands]
  exact ways.mono continues

/-- What leads to a directory goes on leading to one. -/
theorem isDirectory_mono (wellformed : files.Wellformed) (wellformed' : later.Wellformed)
    (continues : Continues files later) (stands : later.workingDirectory = files.workingDirectory)
    (leads : files.isDirectory text = true) : later.isDirectory text = true := by
  obtain ⟨place, walks⟩ := (isDirectory_iff wellformed).mp leads
  exact (isDirectory_iff wellformed').mpr ⟨place, walks.mono continues stands⟩

theorem leadsTo?_isDirectory_iff :
    files.leadsTo? Entry.isDirectory text = .ok true ↔ files.isDirectory text = true := by
  unfold isDirectory leadsTo?
  cases files.stat text with
  | ok there => simp
  | error errno =>
      dsimp only
      split
      · simp
      · simp

/-! ## Written paths -/

/-- The path leads to a directory, from where it begins and links followed. -/
def LeadsInto (files : FileSystem) (path : PathName) (place : Place) : Prop :=
  ∃ used ≤ linkLimit, Walks files (files.base path.root) path.parts used place

theorem LeadsInto.mono (into : files.LeadsInto path place) (continues : Continues files later)
    (stands : later.workingDirectory = files.workingDirectory) : later.LeadsInto path place := by
  obtain ⟨used, few, walks⟩ := into
  refine ⟨used, few, ?_⟩
  rw [base, stands]
  exact walks.mono continues

theorem LeadsInto.unique {other : Place} (into : files.LeadsInto path place)
    (into' : files.LeadsInto path other) : place = other := by
  obtain ⟨_, _, walks⟩ := into
  obtain ⟨_, _, walks'⟩ := into'
  exact (walks.unique walks').2

theorem isDirectory_toText_iff (proper : path.Proper) (wellformed : files.Wellformed) :
    files.isDirectory path.toText = true ↔
      (Utf8.encode path.toText).length < pathLimit ∧ ∃ place, files.LeadsInto path place := by
  rw [isDirectory_iff wellformed]
  constructor
  · rintro ⟨place, -, short, used, few, walks⟩
    have leads := (leads_toText_iff proper).mp walks.leads
    have station := walks.isStation wellformed (isStation_start wellformed _)
    exact ⟨short, place, used, few, leads.walks rfl (station.isDirectory wellformed)⟩
  · rintro ⟨short, place, used, few, walks⟩
    have leads := (leads_toText_iff proper).mpr walks.leads
    have station := walks.isStation wellformed (.base wellformed _)
    exact ⟨place, path.toText_ne_nil proper, short, used, few,
      leads.walks rfl (station.isDirectory wellformed)⟩

/-- Names that stay where they are can be left out of a walk. -/
theorem Walks.filter {kept : Text → Bool} (walks : Walks files here names₁ used place)
    (dropped : ∀ name, kept name = false → name = [] ∨ name = itself) :
    Walks files here (names₁.filter kept) used place := by
  induction names₁ generalizing here used with
  | nil => exact walks
  | cons name rest ih =>
      obtain ⟨first, second, middle, rfl, step, onward⟩ :=
        exists_walks_of_append (@List.singleton_append _ name rest ▸ walks)
      have onward := ih onward
      cases keep : kept name with
      | true =>
          rw [List.filter_cons_of_pos keep]
          exact step.append onward
      | false =>
          rw [List.filter_cons_of_neg (by simp [keep])]
          have stays := dropped name keep
          cases step with
          | stay _ done =>
              cases done
              rwa [Nat.zero_add]
          | up => exact absurd stays (by decide)
          | enter admits => exact absurd stays (by simp [admits.nonempty, admits.ne_itself])
          | link admits => exact absurd stays (by simp [admits.nonempty, admits.ne_itself])

theorem parts_ofText (text : Text) :
    (PathName.ofText text).parts =
      (names text).filter fun part => part ≠ [] && part ≠ itself := by
  have parts : (PathName.ofText text).parts =
      ((text.splitOn '/').filter fun part => part ≠ []).filter
        fun part => part ≠ [] && part ≠ itself := by
    rw [List.filter_filter, PathName.ofText]
    dsimp only
    congr 1
    funext part
    cases part with
    | nil => rfl
    | cons c rest => simp [itself]
  unfold names
  dsimp only
  split
  · rw [List.filter_append, ← parts]
    exact (List.append_nil _).symm
  · exact parts

/-- A path as it was given leads to a directory as it is read. -/
theorem WalksTo.leadsInto (walks : files.WalksTo text place) :
    files.LeadsInto (.ofText text) place := by
  obtain ⟨-, -, used, few, ways⟩ := walks
  refine ⟨used, few, ?_⟩
  have begins : files.base (PathName.ofText text).root = start files.workingDirectory text := by
    by_cases relative : (PathName.ofText text).root = .relative
    · have unrooted := Bool.eq_false_iff.mp (root_eq_relative_iff.mp relative)
      rw [base, if_pos relative, start, if_neg unrooted]
    · have rooted := Bool.ne_false_iff.mp (mt root_eq_relative_iff.mpr relative)
      rw [base, if_neg relative, start, if_pos rooted]
  rw [begins, parts_ofText]
  exact ways.filter fun name drop => by
    simpa [Decidable.or_iff_not_imp_left] using drop

/-- A path that leads to a directory by its parts and a name has it in what the parts lead to. -/
theorem LeadsInto.below {root : PathRoot} {parts : List Text}
    (into : files.LeadsInto ⟨root, parts ++ [name]⟩ place) :
    ∃ directory, files.LeadsInto ⟨root, parts⟩ directory ∧
      ∃ used, Walks files directory [name] used place := by
  obtain ⟨used, few, walks⟩ := into
  obtain ⟨first, second, directory, rfl, before, behind⟩ := exists_walks_of_append walks
  exact ⟨directory, ⟨first, Nat.le_of_add_right_le few, before⟩, second, behind⟩

theorem Reaches.leadsInto {root : PathRoot} {parts : List Text} {last : Text}
    (reaches : files.Reaches ⟨root, parts ++ [last]⟩ directory name) :
    files.LeadsInto ⟨root, parts⟩ directory := by
  obtain ⟨front, eq, used, few, walks⟩ := reaches.walks
  obtain ⟨rfl, -⟩ := List.append_inj' eq rfl
  exact ⟨used, few, walks⟩

/-- What a path leads to without its last name is a directory. -/
theorem Reaches.isDirectory {root : PathRoot} {parts : List Text} {last : Text}
    (reaches : files.Reaches ⟨root, parts ++ [last]⟩ directory name) (some : parts ≠ [])
    (proper : (⟨root, parts⟩ : PathName).Proper) (wellformed : files.Wellformed) :
    files.isDirectory (PathName.toText ⟨root, parts⟩) = true := by
  refine (isDirectory_toText_iff proper wellformed).mpr ⟨?_, directory, reaches.leadsInto⟩
  have short := reaches.short
  rw [PathName.toText_append some, Utf8.encode_append, List.length_append] at short
  exact Nat.lt_of_le_of_lt (Nat.le_add_right _ _) short

end FileSystem

/-! ## Making directories -/

namespace Effect

variable {files later ready : FileSystem} {path : PathName} {place : Place} {mode : Nat}

/-- A directory that is there is not made. -/
theorem mkdir_of_leadsInto (proper : path.Proper) (into : files.LeadsInto path place) (mode : Nat) :
    ∃ refusal, refusal ≠ .noEntry ∧ files.mkdir path.toText mode = .error refusal := by
  obtain ⟨used, few, walks⟩ := into
  obtain ⟨fewer, le, other, entry, leads⟩ := walks.exists_leads_kept
  by_cases short : (Utf8.encode path.toText).length < pathLimit
  · have found : files.resolve .kept path.toText = .ok (.present other entry) :=
      resolve_text_eq_ok_iff.mpr ⟨path.toText_ne_nil proper, short, fewer, Nat.le_trans le few,
        (leads_toText_iff proper).mpr leads⟩
    exact ⟨.exists, by simp, by simp only [mkdir, create, found]⟩
  · have some : ¬path.toText.isEmpty = true := fun empty =>
      path.toText_ne_nil proper (List.isEmpty_iff.mp empty)
    have long : files.resolve .kept path.toText = .error .nameTooLong := by
      rw [resolve, if_neg some, if_pos (Nat.le_of_not_lt short)]
    exact ⟨.nameTooLong, by simp, by simp only [mkdir, create, long]⟩

/-- The directories of a path that leads to one are not made: it is only looked at. -/
theorem makeDirectories_of_leadsInto (proper : path.Proper) (into : files.LeadsInto path place)
    (mode : Nat) :
    ∃ refusal, makeDirectories path mode files = settleDirectory path.toText refusal files := by
  obtain ⟨refusal, other, refused⟩ := mkdir_of_leadsInto proper into mode
  refine ⟨refusal, ?_⟩
  obtain ⟨root, parts⟩ := path
  rw [makeDirectories]
  generalize eq : parts.reverse = before
  cases before with
  | nil =>
      obtain rfl : parts = [] := List.reverse_eq_nil_iff.mp eq
      rw [makeDirectoriesFrom, makeDirectory, refused]
      cases refusal <;> first | rfl | exact absurd rfl other
  | cons part before =>
      have whole : (part :: before).reverse = parts := by rw [← eq, List.reverse_reverse]
      rw [makeDirectoriesFrom, whole]
      dsimp only
      rw [refused]
      cases refusal <;> first | rfl | exact absurd rfl other

theorem makeDirectories_of_isDirectory (proper : path.Proper) (wellformed : files.Wellformed)
    (there : files.isDirectory path.toText = true) (mode : Nat) :
    makeDirectories path mode files = .ok () files := by
  obtain ⟨-, place, into⟩ := (isDirectory_toText_iff proper wellformed).mp there
  obtain ⟨refusal, eq⟩ := makeDirectories_of_leadsInto proper into mode
  rw [eq, settleDirectory, leadsTo?_isDirectory_iff.mpr there]

theorem eq_of_settleDirectory {text : Text} {refusal : Errno}
    (settled : settleDirectory text refusal files = .ok () later) :
    later = files ∧ files.isDirectory text = true := by
  unfold settleDirectory at settled
  split at settled
  · rename_i leads
    cases settled
    exact ⟨rfl, leadsTo?_isDirectory_iff.mp leads⟩
  · contradiction
  · contradiction

/-- The path leads to a directory that was not there before. -/
def IsNew (files later : FileSystem) (path : PathName) : Prop :=
  ∃ place, later.LeadsInto path place ∧ files.get? place = none

theorem isNew_of_mkdir (proper : path.Proper)
    (made : files.mkdir path.toText mode = .ok later) : IsNew files later path := by
  obtain ⟨directory, name, reaches, free, rfl⟩ := create_eq_ok proper made
  refine ⟨directory ++ [name], ?_, free⟩
  have continues := (Extends.insert (by simp) free (.directory (directoryMode mode))).continues
  obtain ⟨front, parts, used, few, walks⟩ := (reaches.mono continues rfl).walks
  refine ⟨used, few, ?_⟩
  rw [parts]
  have found : (files.insert (directory ++ [name]) (.directory (directoryMode mode))).get?
      (directory ++ [name]) = some (.directory (directoryMode mode)) := by
    rw [get?_insert files (by simp), if_pos rfl]
  exact walks.append (.enter reaches.admits found .done)

/-- In a directory that was not there before, everything is new. -/
theorem IsNew.below {root : PathRoot} {parts : List Text} {name : Text}
    (new : IsNew files later ⟨root, parts⟩) (grows : Grows files later [⟨root, parts⟩])
    (wellformed : files.Wellformed) (named : IsName name)
    (into : later.LeadsInto ⟨root, parts ++ [name]⟩ place) :
    IsNew files later ⟨root, parts ++ [name]⟩ := by
  obtain ⟨directory, here, free⟩ := new
  obtain ⟨above, there, used, step⟩ := into.below
  obtain rfl := here.unique there
  have free : files.get? (directory ++ [name]) = none :=
    wellformed.absent_of_above free (List.prefix_append _ _)
  cases step with
  | stay empty => exact absurd empty (by simp [named.nonempty, named.ne_itself])
  | up => exact absurd rfl named.ne_above
  | enter _ _ done =>
      cases done
      exact ⟨directory ++ [name], into, free⟩
  | link _ found => cases (grows.fresh _ _ free found).1

/-- Where a directory was not there before, nothing was found in it. -/
theorem IsNew.not_found {name : Text} {paths : List PathName} (new : IsNew files later path)
    (grows : Grows files later paths) (wellformed : files.Wellformed) (proper : path.Proper)
    (named : IsName name) (place : Place) (entry : Entry) :
    files.resolve .followed (PathName.toText ⟨path.root, path.parts ++ [name]⟩) ≠
      .ok (.present place entry) := by
  intro found
  obtain ⟨directory, into, free⟩ := new
  have properNamed := (PathName.isNamed_append proper named).proper
  obtain ⟨-, used, few, leads⟩ :=
    (resolve_toText_eq_ok_iff properNamed).mp found
  obtain ⟨first, second, middle, rfl, walks, last⟩ := (leads_concat_iff (by simp)).mp leads
  have before : files.LeadsInto path middle := ⟨first, Nat.le_of_add_right_le few, walks⟩
  obtain rfl := into.unique (before.mono grows.kept.continues grows.stands)
  have absent := wellformed.absent_of_above free (List.prefix_append directory [name])
  cases last with
  | stay empty => exact absurd empty (by simp [named.nonempty, named.ne_itself])
  | up => exact absurd rfl named.ne_above
  | last _ there =>
      rw [absent] at there
      contradiction
  | enter _ more => exact absurd rfl more
  | link _ _ there =>
      rw [absent] at there
      contradiction

/-- A directory below one that was there, or that was made, was there as well, or is made. -/
theorem eq_or_isNew_of_makeDirectoriesFrom {root : PathRoot} {before : List Text} {name : Text}
    (wellformed : files.Wellformed) (proper : (⟨root, before.reverse⟩ : PathName).Proper)
    (named : IsName name)
    (above : ∀ middle, makeDirectoriesFrom root wayMode before files = .ok () middle →
      middle = files ∨ IsNew files middle ⟨root, before.reverse⟩)
    (made : makeDirectoriesFrom root mode (name :: before) files = .ok () ready) :
    ready = files ∨ IsNew files ready ⟨root, before.reverse ++ [name]⟩ := by
  have properNamed := (PathName.isNamed_append proper named).proper
  rw [makeDirectoriesFrom, List.reverse_cons] at made
  dsimp only at made
  split at made
  · rename_i later made'
    cases made
    exact .inr (isNew_of_mkdir properNamed made')
  · split at made
    · rename_i middle made'
      have grows := grows_makeDirectoriesFrom root wayMode before proper files
      rw [made', after] at grows
      unfold makeDirectory at made
      split at made
      · rename_i last made''
        cases made
        obtain ⟨place, into, free⟩ := isNew_of_mkdir properNamed made''
        refine .inr ⟨place, into, ?_⟩
        by_contra there
        exact grows.present there free
      · contradiction
      · obtain ⟨rfl, leads⟩ := eq_of_settleDirectory made
        refine (above ready made').imp_right fun new => ?_
        obtain ⟨-, place, into⟩ :=
          (isDirectory_toText_iff properNamed (grows.wellformed wellformed)).mp leads
        exact new.below grows wellformed named into
    · contradiction
  · exact .inl (eq_of_settleDirectory made).1

/-- Where the directories of a path are made below one that was there, all were there, or the last
one is new. -/
theorem eq_or_isNew_of_makeDirectories {root : PathRoot} {parts names : List Text}
    (wellformed : files.Wellformed) (proper : (⟨root, parts⟩ : PathName).Proper)
    (into : files.LeadsInto ⟨root, parts⟩ place) (named : ∀ name ∈ names, IsName name)
    (made : makeDirectories ⟨root, parts ++ names⟩ mode files = .ok () ready) :
    ready = files ∨ IsNew files ready ⟨root, parts ++ names⟩ := by
  rw [makeDirectories] at made
  induction names using List.reverseRecOn generalizing mode ready with
  | nil =>
      rw [List.append_nil] at made
      obtain ⟨refusal, eq⟩ := makeDirectories_of_leadsInto proper into mode
      rw [makeDirectories] at eq
      exact .inl (eq_of_settleDirectory (eq.symm.trans made)).1
  | append_singleton names name ih =>
      have namedBefore : ∀ name ∈ names, IsName name := fun name mem =>
        named name (List.mem_append_left _ mem)
      have properBefore : (⟨root, parts ++ names⟩ : PathName).Proper := by
        intro part mem
        rcases List.mem_append.mp mem with old | new
        · exact proper part old
        · have isName := namedBefore part new
          exact ⟨isName.nonempty, isName.ne_itself, isName.noSlash⟩
      rw [← List.append_assoc, List.reverse_append, List.reverse_singleton, List.singleton_append]
        at made
      have last := eq_or_isNew_of_makeDirectoriesFrom wellformed
        (by rwa [List.reverse_reverse]) (named name (List.mem_append_right _ (by simp)))
        (fun middle made' => by
          rw [List.reverse_reverse]
          exact ih namedBefore made') made
      rwa [List.reverse_reverse, List.append_assoc] at last

end Effect

end SafeDelete
