/-
Module: SafeDelete.Proofs.Files.Normal
Purpose: The place that a path names by its text alone, and when it is where the path leads.
Main exports: FileSystem.normal, FileSystem.placeOf, FileSystem.IsUnlinked,
  FileSystem.Reaches.eq_placeOf, FileSystem.parts_of_absolute, FileSystem.ReadsAsWritten,
  FileSystem.lstat_of_lstat_absolute
-/
import Mathlib.Data.List.Infix
import SafeDelete.Files.Absolute
import SafeDelete.Proofs.Files.Reach

namespace SafeDelete

open FileSystem

namespace FileSystem

/-! ## Places by text -/

/-- Where a name leads by its text alone: an empty name and a single dot stay, and two dots drop the
last name. -/
def stepped (here : Place) (name : Text) : Place :=
  if name = [] ∨ name = itself then here
  else if name = above then here.dropLast
  else here ++ [name]

/-- Where names lead by their text alone. -/
def normal (here : Place) (names : List Text) : Place :=
  names.foldl stepped here

variable {files : FileSystem} {here there place : Place} {name : Text} {names₁ names₂ : List Text}
  {links : Nat} {path : PathName} {text : Text}

theorem stepped_stay (stays : name = [] ∨ name = itself) : stepped here name = here :=
  if_pos stays

@[simp] theorem stepped_above : stepped here above = here.dropLast := by
  rw [stepped, if_neg (by decide), if_pos rfl]

theorem stepped_name (nonempty : name ≠ []) (ne_itself : name ≠ itself) (ne_above : name ≠ above) :
    stepped here name = here ++ [name] := by
  rw [stepped, if_neg (by simp [nonempty, ne_itself]), if_neg ne_above]

theorem Admits.stepped {ending : Ending} {rest : List Text} (admits : Admits ending here name rest)
    (place : Place) : stepped place name = place ++ [name] :=
  stepped_name admits.nonempty admits.ne_itself admits.ne_above

theorem IsName.stepped (named : IsName name) : stepped here name = here ++ [name] :=
  stepped_name named.nonempty named.ne_itself named.ne_above

@[simp] theorem normal_nil : normal here [] = here :=
  rfl

@[simp] theorem normal_cons : normal here (name :: names₁) = normal (stepped here name) names₁ :=
  rfl

@[simp] theorem normal_append :
    normal here (names₁ ++ names₂) = normal (normal here names₁) names₂ :=
  List.foldl_append

theorem normal_of_isName (named : ∀ name ∈ names₁, IsName name) :
    normal here names₁ = here ++ names₁ := by
  induction names₁ generalizing here with
  | nil => simp
  | cons name rest ih =>
      rw [normal_cons, (named name List.mem_cons_self).stepped,
        ih fun name mem => named name (List.mem_cons_of_mem _ mem), List.append_assoc]
      rfl

/-- What holds of the names of a start and of all proper names that follow holds of the names of
where they lead. -/
theorem forall_mem_normal {holds : Text → Prop} (begin : ∀ name ∈ here, holds name)
    (onward : ∀ name ∈ names₁, name ≠ [] → name ≠ itself → name ≠ above → holds name) :
    ∀ name ∈ normal here names₁, holds name := by
  induction names₁ generalizing here with
  | nil => exact begin
  | cons first rest ih =>
      refine ih ?_ fun name mem => onward name (List.mem_cons_of_mem _ mem)
      unfold stepped
      split
      · exact begin
      rename_i moves
      split
      · exact fun name mem => begin name (List.dropLast_subset _ mem)
      · rename_i down
        obtain ⟨nonempty, ne_itself⟩ := not_or.mp moves
        intro name mem
        rcases List.mem_append.mp mem with old | new
        · exact begin name old
        · obtain rfl := List.mem_singleton.mp new
          exact onward name List.mem_cons_self nonempty ne_itself down

/-- Names that stay can be left out. -/
theorem normal_filter {keeps : Text → Bool}
    (stays : ∀ name, keeps name = false → name = [] ∨ name = itself) :
    normal here (names₁.filter keeps) = normal here names₁ := by
  induction names₁ generalizing here with
  | nil => rfl
  | cons name rest ih =>
      cases kept : keeps name with
      | true => rw [List.filter_cons_of_pos kept, normal_cons, normal_cons, ih]
      | false =>
          rw [List.filter_cons_of_neg (by simp [kept]), normal_cons, stepped_stay (stays name kept),
            ih]

/-! ## Walking without links -/

/-- There is a link at a place. -/
def HasLink (files : FileSystem) (place : Place) : Prop :=
  ∃ text, files.get? place = some (.link text)

instance (files : FileSystem) (place : Place) : Decidable (files.HasLink place) :=
  match found : files.get? place with
  | some (.link text) => isTrue ⟨text, found⟩
  | some (.file _ _) => isFalse fun ⟨_, link⟩ => by simp [found] at link
  | some (.directory _) => isFalse fun ⟨_, link⟩ => by simp [found] at link
  | none => isFalse fun ⟨_, link⟩ => by simp [found] at link

/-- A walk that meets no link ends where the names lead by their text. -/
theorem Walks.eq_normal (walks : Walks files here names₁ links there)
    (unlinked : ∀ front, front <+: names₁ → ¬files.HasLink (normal here front)) :
    there = normal here names₁ ∧ links = 0 := by
  have onward : ∀ {here : Place} {name : Text} {rest : List Text},
      (∀ front, front <+: name :: rest → ¬files.HasLink (normal here front)) →
        ∀ front, front <+: rest → ¬files.HasLink (normal (stepped here name) front) :=
    fun unlinked front short => unlinked (_ :: front) (List.cons_prefix_cons.mpr ⟨rfl, short⟩)
  induction walks with
  | done => exact ⟨rfl, rfl⟩
  | stay stays _ ih =>
      have next := onward unlinked
      rw [stepped_stay stays] at next
      rw [normal_cons, stepped_stay stays]
      exact ih next
  | up _ ih =>
      have next := onward unlinked
      rw [stepped_above] at next
      rw [normal_cons, stepped_above]
      exact ih next
  | enter admits _ _ ih =>
      have next := onward unlinked
      rw [admits.stepped] at next
      rw [normal_cons, admits.stepped]
      exact ih next
  | @link here _ name rest text _ admits found =>
      refine absurd ⟨text, ?_⟩ (unlinked [name] (by simp))
      simpa [admits.stepped] using found

/-- The place that a path names by its text. -/
def placeOf (files : FileSystem) (path : PathName) : Place :=
  normal (files.base path.root) path.parts

/-- No link is on the way that the path names by its text. -/
def IsUnlinked (files : FileSystem) (path : PathName) : Prop :=
  ∀ front, front <+: path.parts → ¬files.HasLink (files.placeOf ⟨path.root, front⟩)

instance (files : FileSystem) (path : PathName) : Decidable (files.IsUnlinked path) :=
  decidable_of_iff (∀ front ∈ path.parts.inits, ¬files.HasLink (files.placeOf ⟨path.root, front⟩))
    (by simp [IsUnlinked, List.mem_inits])

theorem placeOf_append {root : PathRoot} {parts : List Text} (named : IsName name) :
    files.placeOf ⟨root, parts ++ [name]⟩ = files.placeOf ⟨root, parts⟩ ++ [name] := by
  simp [placeOf, named.stepped]

theorem Reaches.eq_placeOf {directory : Place} (reaches : files.Reaches path directory name)
    (unlinked : files.IsUnlinked path.parent) : directory ++ [name] = files.placeOf path := by
  obtain ⟨root, parts⟩ := path
  obtain ⟨front, rfl, links, _, walks⟩ := reaches.walks
  rw [PathName.parent, List.dropLast_concat] at unlinked
  rw [(walks.eq_normal unlinked).1, placeOf, normal_append, normal_cons, normal_nil,
    reaches.admits.stepped]

/-- The front of a path that is reached is walked by its text, if no link is on it. -/
theorem Reaches.walks_front {root : PathRoot} {front more : List Text} {last name : Text}
    {directory : Place} (reaches : files.Reaches ⟨root, front ++ more ++ [last]⟩ directory name)
    (unlinked : files.IsUnlinked ⟨root, front⟩) :
    Walks files (files.base root) front 0 (files.placeOf ⟨root, front⟩) := by
  obtain ⟨above, parts, links, _, walks⟩ := reaches.walks
  obtain ⟨rfl, -⟩ := List.append_inj' parts rfl
  obtain ⟨first, second, middle, rfl, walks, -⟩ := exists_walks_of_append walks
  obtain ⟨rfl, rfl⟩ := walks.eq_normal unlinked
  exact walks

/-- The names of a directory lead to it. -/
theorem Walks.of_directory (walks : Walks files [] place links there)
    (wellformed : files.Wellformed) (directory : files.HasDirectory place) :
    there = place ∧ links = 0 := by
  have named : ∀ name ∈ place, IsName name := fun name => wellformed.isName_of_mem directory.present
  have same := walks.eq_normal fun front short => by
    have before : files.HasDirectory front := by
      by_cases all : front = place
      · exact all ▸ directory
      · exact wellformed.hasDirectory_of_above directory.present short all
    obtain ⟨mode, there⟩ := before
    rw [normal_of_isName fun name mem => named name (short.subset mem), List.nil_append]
    rintro ⟨text, link⟩
    exact absurd (there.symm.trans link) (by simp)
  rwa [normal_of_isName named, List.nil_append] at same

/-! ## Paths made absolute -/

theorem root_eq_relative_iff :
    (PathName.ofText text).root = .relative ↔ Text.startsWith "/" text = false := by
  rw [PathName.ofText, Text.startsWith, ← Bool.not_eq_true, List.isPrefixOf_iff_prefix]
  dsimp only
  unfold PathRoot.ofText
  split
  · simp
  · simp
  · simp
  · rename_i _ _ other
    simp only [true_iff]
    rintro ⟨rest, rfl⟩
    exact other rest rfl

theorem normal_parts (text : Text) :
    normal here (PathName.ofText text).parts = normal here (names text) := by
  have split : normal here (names text) = normal here (text.splitOn '/') := by
    have parts : normal here ((text.splitOn '/').filter fun part => part ≠ []) =
        normal here (text.splitOn '/') := normal_filter (by simp)
    unfold names
    dsimp only
    rw [apply_ite (normal here), normal_append, slashEnd, normal_cons, stepped_stay (Or.inl rfl),
      normal_nil, ite_self, parts]
  rw [split, PathName.ofText]
  refine normal_filter fun name dropped => ?_
  simpa [itself, Decidable.or_iff_not_imp_left] using dropped

theorem collapse_eq_normal {parts : List Text}
    (proper : ∀ part ∈ parts, ¬(part = [] ∨ part = itself)) :
    PathName.collapse parts = normal [] parts := by
  have step : ∀ kept, parts.foldl
      (fun kept part => if part = PathName.above then kept.dropLast else kept ++ [part]) kept =
        normal kept parts := by
    induction parts with
    | nil => exact fun kept => rfl
    | cons part rest ih =>
        intro kept
        have first := proper part List.mem_cons_self
        rw [List.foldl_cons, ih fun part mem => proper part (List.mem_cons_of_mem _ mem),
          normal_cons, stepped, if_neg first]
        rfl
  exact step []

/-- A path that can be made absolute starts at a directory. -/
theorem hasDirectory_start (wellformed : files.Wellformed) (made : files.absolute text = .ok path) :
    files.HasDirectory (start files.workingDirectory text) := by
  unfold start
  split
  · exact .root files
  · rename_i relative
    have relative := root_eq_relative_iff.mpr (Bool.eq_false_iff.mpr relative)
    refine wellformed.working.hasDirectory (Bool.eq_false_iff.mpr fun removed => ?_)
    rw [absolute, if_pos ⟨relative, removed⟩] at made
    contradiction

/-- A path made absolute consists of the names that its text leads to. -/
theorem parts_of_absolute (wellformed : files.Wellformed) (made : files.absolute text = .ok path) :
    path.root ≠ .relative ∧
      path.parts = normal (start files.workingDirectory text) (names text) := by
  have proper : ∀ part ∈ (PathName.ofText text).parts, ¬(part = [] ∨ part = itself) :=
    fun part mem => not_or.mpr ⟨(PathName.proper_ofText text part mem).1,
      (PathName.proper_ofText text part mem).2.1⟩
  have begin := hasDirectory_start wellformed made
  unfold absolute at made
  split at made
  · contradiction
  obtain rfl := Except.ok.inj made
  rw [← normal_parts]
  unfold PathName.absolute
  dsimp only
  split
  · rename_i relative
    rw [start, if_neg (Bool.eq_false_iff.mp (root_eq_relative_iff.mp relative))] at begin ⊢
    have named : ∀ name ∈ files.workingDirectory, IsName name :=
      fun name => wellformed.isName_of_mem begin.present
    refine ⟨by simp, ?_⟩
    rw [collapse_eq_normal, normal_append, normal_of_isName named, List.nil_append]
    intro part mem
    rcases List.mem_append.mp mem with old | new
    · exact not_or.mpr ⟨(named part old).nonempty, (named part old).ne_itself⟩
    · exact proper part new
  · rename_i rooted
    have slash : Text.startsWith "/" text = true :=
      Bool.ne_false_iff.mp fun other => rooted (root_eq_relative_iff.mpr other)
    rw [start, if_pos slash]
    exact ⟨rooted, collapse_eq_normal proper⟩

theorem isName_of_absolute (wellformed : files.Wellformed) (made : files.absolute text = .ok path) :
    ∀ name ∈ path.parts, IsName name := by
  rw [(parts_of_absolute wellformed made).2]
  refine forall_mem_normal (fun name => ?_) fun name mem nonempty ne_itself ne_above => ?_
  · exact wellformed.isName_of_mem (hasDirectory_start wellformed made).present
  · exact ⟨nonempty, ne_itself, ne_above, PathName.slash_not_mem_of_mem_names mem⟩

theorem proper_of_absolute (wellformed : files.Wellformed) (made : files.absolute text = .ok path) :
    path.Proper := fun part mem =>
  have named := isName_of_absolute wellformed made part mem
  ⟨named.nonempty, named.ne_itself, named.noSlash⟩

/-- Only the root has no name. -/
theorem isNamed_of_absolute (wellformed : files.Wellformed) (made : files.absolute text = .ok path)
    (some : path.parts ≠ []) : path.IsNamed where
  proper := proper_of_absolute wellformed made
  named := by
    obtain ⟨front, last, parts⟩ := (List.eq_nil_or_concat path.parts).resolve_left some
    rw [List.concat_eq_append] at parts
    have named := isName_of_absolute wellformed made last (by simp [parts])
    simpa [PathName.name, parts] using named

/-! ## Paths that lead where their text says -/

/-- Names from the root lead to a directory, and not to a link. -/
def FindsDirectory (files : FileSystem) (names : List Text) : Prop :=
  ∃ place mode, files.follow .kept linkLimit [] names = .ok (.present place (.directory mode))

/-- A name that is neither empty nor made of dots. -/
def IsPlain (name : Text) : Prop :=
  name ≠ [] ∧ name ≠ itself ∧ name ≠ above

theorem isPlain_of_mem_normal (wellformed : files.Wellformed) (begin : files.HasDirectory here) :
    ∀ name ∈ normal here names₁, IsPlain name :=
  forall_mem_normal
    (fun _ mem =>
      have named := wellformed.isName_of_mem begin.present mem
      ⟨named.nonempty, named.ne_itself, named.ne_above⟩)
    fun _ _ nonempty ne_itself ne_above => ⟨nonempty, ne_itself, ne_above⟩

/-- A directory that names lead to, without a link at their end, is below where all but the last of
them lead. -/
theorem exists_enter_of_leads {front : List Text} {used mode : Nat} (plain : IsPlain name)
    (leads : Leads files .kept here (front ++ [name]) used (.present place (.directory mode))) :
    ∃ middle, Walks files here front used middle ∧ Admits .kept middle name [] ∧
      place = middle ++ [name] ∧ files.get? (middle ++ [name]) = some (.directory mode) := by
  rw [leads_concat_iff (by simp)] at leads
  obtain ⟨links, second, middle, rfl, walks, last⟩ := leads
  obtain ⟨rfl, admits, target⟩ := (leads_name_iff plain.1 plain.2.1 plain.2.2).mp last
  obtain ⟨rfl, found⟩ := targetAt_eq_present_iff.mp target.symm
  exact ⟨middle, walks, admits, rfl, found⟩

theorem Walks.of_leads {used mode : Nat} (plain : ∀ name ∈ names₁, IsPlain name)
    (leads : Leads files .kept here names₁ used (.present place (.directory mode))) :
    Walks files here names₁ used place := by
  rcases List.eq_nil_or_concat names₁ with rfl | ⟨front, last, rfl⟩
  · obtain ⟨rfl, same⟩ := leads_nil_iff.mp leads
    obtain ⟨rfl, -⟩ := Target.present.inj same
    exact .done
  · rw [List.concat_eq_append] at *
    obtain ⟨middle, walks, admits, rfl, found⟩ :=
      exists_enter_of_leads (plain last (by simp)) leads
    exact walks.append (.enter admits found .done)

/-- A walk along the place that names lead to by their text is one along the names themselves,
where all that two dots leave is a directory and no link. -/
theorem Walks.of_normal (wellformed : files.Wellformed) (begin : files.HasDirectory here)
    (upwards : ∀ front, front ++ [above] <+: names₁ → files.FindsDirectory (normal here front))
    (walks : Walks files [] (normal here names₁) links there) :
    Walks files here names₁ links there := by
  induction names₁ using List.reverseRecOn generalizing links there with
  | nil =>
      obtain ⟨rfl, rfl⟩ := walks.of_directory wellformed begin
      exact .done
  | append_singleton front name ih =>
      have onward : ∀ {links : Nat} {there : Place},
          Walks files [] (normal here front) links there → Walks files here front links there :=
        ih fun before short => upwards before (short.trans (List.prefix_append _ _))
      rw [normal_append, normal_cons, normal_nil] at walks
      by_cases stays : name = [] ∨ name = itself
      · rw [stepped_stay stays] at walks
        exact (onward walks).append (.stay stays .done)
      by_cases up : name = above
      · subst up
        rw [stepped_above] at walks
        obtain ⟨place, mode, found⟩ := upwards front List.prefix_rfl
        obtain ⟨used, _, leads⟩ := follow_eq_ok_iff.mp found
        have plain := @isPlain_of_mem_normal files here front wellformed begin
        rcases List.eq_nil_or_concat (normal here front) with root | ⟨before, last, parts⟩
        · rw [root, List.dropLast_nil] at walks
          cases walks
          have atRoot : Walks files [] (normal here front) 0 [] := by
            rw [root]
            exact .done
          exact (onward atRoot).append (.up .done)
        · rw [List.concat_eq_append] at parts
          rw [parts] at walks leads plain
          rw [List.dropLast_concat] at walks
          obtain ⟨middle, walks', admits, _, found⟩ :=
            exists_enter_of_leads (plain last (by simp)) leads
          obtain ⟨rfl, rfl⟩ := walks.unique walks'
          have down := walks.append (.enter admits found .done)
          have back := (onward (parts ▸ down)).append (.up .done)
          rwa [List.dropLast_concat] at back
      · obtain ⟨nonempty, ne_itself⟩ := not_or.mp stays
        rw [stepped_name nonempty ne_itself up] at walks
        obtain ⟨first, second, middle, rfl, before, last⟩ := exists_walks_of_append walks
        exact (onward before).append last

/-- The end of the names is no name of its own, but asks for a directory or the one above. -/
def EndsInDirectory (names : List Text) : Prop :=
  ∃ front last, names = front ++ [last] ∧ ¬IsPlain last

/-- The text of the path says where it leads: every directory that two dots leave is there and no
link, and so is the one that the path ends in, if the path asks for one. -/
structure ReadsAsWritten (files : FileSystem) (path : Text) : Prop where
  nonempty : path ≠ []
  short : (Utf8.encode path).length < pathLimit
  placed : Text.startsWith "/" path = false → files.workingDirectory.isRemoved = false
  upwards : ∀ front, front ++ [above] <+: names path →
    files.FindsDirectory (normal (start files.workingDirectory path) front)
  ending : EndsInDirectory (names path) → ∀ place entry,
    files.follow .kept linkLimit [] (normal (start files.workingDirectory path) (names path)) =
      .ok (.present place entry) → entry.isDirectory = true

theorem Walks.leads_of_endsInDirectory (walks : Walks files here names₁ links place)
    (ends : EndsInDirectory names₁) :
    Leads files .kept here names₁ links
      (.present place ((files.get? place).getD (.directory 0o755))) := by
  obtain ⟨front, last, rfl, special⟩ := ends
  obtain ⟨first, second, middle, rfl, before, behind⟩ := exists_walks_of_append walks
  rw [leads_concat_iff (by simp)]
  refine ⟨first, second, middle, rfl, before, ?_⟩
  cases behind with
  | stay empty onward =>
      cases onward
      exact .stay empty .here
  | up onward =>
      cases onward
      exact .up .here
  | enter admits => exact absurd ⟨admits.nonempty, admits.ne_itself, admits.ne_above⟩ special
  | link admits => exact absurd ⟨admits.nonempty, admits.ne_itself, admits.ne_above⟩ special

/-- A path without a name is made of slashes. -/
theorem startsWith_of_names_eq_nil (some : text ≠ []) (empty : names text = []) :
    Text.startsWith "/" text = true := by
  have noParts : (text.splitOn '/').filter (fun part => part ≠ []) = [] := by
    unfold names at empty
    dsimp only at empty
    split at empty
    · exact (List.append_eq_nil_iff.mp empty).1
    · exact empty
  cases text with
  | nil => exact absurd rfl some
  | cons c rest =>
      by_cases slash : c = '/'
      · simp [Text.startsWith, slash]
      · rw [Text.splitOn, if_neg slash] at noParts
        cases parts : Text.splitOn '/' rest <;> simp [parts] at noParts

/-- What is found at such a path made absolute is found at the path. -/
theorem lstat_of_lstat_absolute (wellformed : files.Wellformed) (reads : files.ReadsAsWritten text)
    (made : files.absolute text = .ok path) {entry : Entry}
    (found : files.lstat path.toText = .ok (place, entry)) :
    files.lstat text = .ok (place, entry) := by
  have begin := hasDirectory_start wellformed made
  obtain ⟨rooted, parts⟩ := parts_of_absolute wellformed made
  obtain ⟨-, used, few, leads⟩ :=
    (resolve_toText_eq_ok_iff (proper_of_absolute wellformed made)).mp
      (lstat_text_eq_ok_iff.mp found)
  rw [base, if_neg rooted, parts] at leads
  refine lstat_text_eq_ok_iff.mpr (resolve_text_eq_ok_iff.mpr
    ⟨reads.nonempty, reads.short, used, few, ?_⟩)
  have plain := @isPlain_of_mem_normal files _ (names text) wellformed begin
  by_cases ends : EndsInDirectory (names text)
  · obtain ⟨mode, rfl⟩ : ∃ mode, entry = .directory mode := by
      have isDirectory := reads.ending ends _ _ (follow_eq_ok_iff.mpr ⟨used, few, leads⟩)
      cases entry <;> simp_all [Entry.isDirectory]
    have walks := Walks.of_normal wellformed begin reads.upwards (.of_leads plain leads)
    have onward := walks.leads_of_endsInDirectory ends
    rwa [← show Entry.directory mode = _ from leads.isIn] at onward
  · rcases List.eq_nil_or_concat (names text) with empty | ⟨front, last, eq⟩
    · rw [start, if_pos (startsWith_of_names_eq_nil reads.nonempty empty)] at leads ⊢
      rwa [empty] at leads ⊢
    · rw [List.concat_eq_append] at eq
      have named : IsPlain last :=
        Classical.not_not.mp fun special => ends ⟨front, last, eq, special⟩
      rw [eq, normal_append, normal_cons, normal_nil, stepped_name named.1 named.2.1 named.2.2,
        leads_concat_iff (by simp)] at leads
      obtain ⟨first, second, middle, rfl, walks, behind⟩ := leads
      rw [eq, leads_concat_iff (by simp)]
      refine ⟨first, second, middle, rfl, ?_, behind⟩
      exact .of_normal wellformed begin (fun before short => reads.upwards before
        (eq ▸ short.trans (List.prefix_append _ _))) walks

end FileSystem

end SafeDelete
