/-
Module: SafeDelete.Proofs.Files.Lookup
Purpose: Looking up a path as a relation, what a lookup says about the tree, and when it says the
  same of another tree.
Main exports: FileSystem.Leads, FileSystem.follow_eq_ok_iff, FileSystem.Walks,
  FileSystem.leads_concat_iff, FileSystem.Walks.unique, FileSystem.Leads.isIn
-/
import SafeDelete.Proofs.Files.Path

namespace SafeDelete.FileSystem

/-!
A path is followed by a function that counts the links it may still follow.  `Leads` is the same
walk without the count: one rule for each thing that a name can meet.  `Walks` is the part of it
that ends in a directory, whatever name comes next; a lookup is a walk along all names but the last,
and a step with the last one.
-/

/-- A name that is looked up in a directory. -/
structure Admits (ending : Ending) (here : Place) (name : Text) (rest : List Text) : Prop where
  nonempty : name ≠ []
  ne_itself : name ≠ itself
  ne_above : name ≠ above
  writable : ¬(ending = .written ∧ rest = slashEnd)
  stands : here.isRemoved = false
  short : (Utf8.encode name).length ≤ nameLimit

/-- Names lead from a place to a target, over so many links. -/
inductive Leads (files : FileSystem) (ending : Ending) :
    Place → List Text → Nat → Target → Prop
  | here {here : Place} :
      Leads files ending here [] 0 (.present here ((files.get? here).getD (.directory 0o755)))
  | stay {here : Place} {name : Text} {rest : List Text} {links : Nat} {target : Target}
      (empty : name = [] ∨ name = itself) (onward : Leads files ending here rest links target) :
      Leads files ending here (name :: rest) links target
  | up {here : Place} {rest : List Text} {links : Nat} {target : Target}
      (onward : Leads files ending here.dropLast rest links target) :
      Leads files ending here (above :: rest) links target
  | absent {here : Place} {name : Text} (admits : Admits ending here name [])
      (free : files.get? (here ++ [name]) = none) :
      Leads files ending here [name] 0 (.absent here name)
  | last {here : Place} {name : Text} {entry : Entry} (admits : Admits ending here name [])
      (found : files.get? (here ++ [name]) = some entry)
      (kept : ∀ text, entry = .link text → ending = .kept) :
      Leads files ending here [name] 0 (.present (here ++ [name]) entry)
  | enter {here : Place} {name : Text} {rest : List Text} {mode links : Nat} {target : Target}
      (admits : Admits ending here name rest) (more : rest ≠ [])
      (found : files.get? (here ++ [name]) = some (.directory mode))
      (onward : Leads files ending (here ++ [name]) rest links target) :
      Leads files ending here (name :: rest) links target
  | link {here : Place} {name : Text} {rest : List Text} {text : Text} {links : Nat}
      {target : Target} (admits : Admits ending here name rest)
      (followed : rest = [] → ending ≠ .kept)
      (found : files.get? (here ++ [name]) = some (.link text))
      (onward : Leads files ending (start here text) (names text ++ rest) links target) :
      Leads files ending here (name :: rest) (links + 1) target

variable {files later : FileSystem} {ending : Ending} {here there place : Place} {name : Text}
  {names₁ names₂ rest : List Text} {links used : Nat} {target : Target} {entry : Entry}

/-! ## The relation and the function -/

theorem descend_of_admits : Admits ending here name rest →
    files.descend ending here (name :: rest) =
      match files.get? (here ++ [name]), rest with
      | none, [] => .ok (.arrived (.absent here name))
      | none, _ => .error .noEntry
      | some (.link target), [] =>
        if ending = .kept then .ok (.arrived (.present (here ++ [name]) (.link target)))
        else .ok (.linked (start here target) (names target))
      | some (.link target), rest => .ok (.linked (start here target) (names target ++ rest))
      | some entry, [] => .ok (.arrived (.present (here ++ [name]) entry))
      | some (.directory _), _ => descend files ending (here ++ [name]) rest
      | some (.file _ _), _ => .error .notDirectory := by
  intro admits
  rw [descend, if_neg (by simp [admits.nonempty, admits.ne_itself]), if_neg admits.ne_above,
    if_neg admits.writable, if_neg (by simp [admits.stands])]
  exact if_neg (Nat.not_lt.mpr admits.short)

/-- A name that is not looked up in a directory leads up, or nowhere, or is refused. -/
theorem descend_of_not_admits (refused : ¬Admits ending here name rest)
    (moves : ¬(name = [] ∨ name = itself)) (down : name ≠ above) :
    ∃ errno, files.descend ending here (name :: rest) = .error errno := by
  obtain ⟨nonempty, notItself⟩ := not_or.mp moves
  rw [descend, if_neg (by simpa using moves), if_neg down]
  by_cases writable : ending = .written ∧ rest = slashEnd
  · exact ⟨_, if_pos writable⟩
  · rw [if_neg writable]
    cases stands : here.isRemoved with
    | true => exact ⟨_, rfl⟩
    | false =>
        by_cases short : (Utf8.encode name).length ≤ nameLimit
        · exact absurd ⟨nonempty, notItself, down, writable, stands, short⟩ refused
        · exact ⟨_, if_pos (Nat.lt_of_not_le short)⟩

theorem descend_stay (empty : name = [] ∨ name = itself) :
    files.descend ending here (name :: rest) = files.descend ending here rest := by
  rw [descend, if_pos (by simpa using empty)]

theorem descend_up :
    files.descend ending here (above :: rest) = files.descend ending here.dropLast rest := by
  rw [descend, if_neg (by decide), if_pos rfl]

theorem descend_last (admits : Admits ending here name [])
    (found : files.get? (here ++ [name]) = some entry)
    (kept : ∀ text, entry = .link text → ending = .kept) :
    files.descend ending here [name] = .ok (.arrived (.present (here ++ [name]) entry)) := by
  rw [descend_of_admits admits, found]
  cases entry with
  | link text => simp [kept text rfl]
  | file mode content => rfl
  | directory mode => rfl

theorem descend_enter {mode : Nat} (admits : Admits ending here name rest) (more : rest ≠ [])
    (found : files.get? (here ++ [name]) = some (.directory mode)) :
    files.descend ending here (name :: rest) = files.descend ending (here ++ [name]) rest := by
  rw [descend_of_admits admits, found]
  cases rest with
  | nil => exact absurd rfl more
  | cons next rest => rfl

theorem descend_link {text : Text} (admits : Admits ending here name rest)
    (followed : rest = [] → ending ≠ .kept)
    (found : files.get? (here ++ [name]) = some (.link text)) :
    files.descend ending here (name :: rest) =
      .ok (.linked (start here text) (names text ++ rest)) := by
  rw [descend_of_admits admits, found]
  cases rest with
  | nil => simp [followed rfl]
  | cons next rest => rfl

theorem follow_of_descend {progress : Place} {onward : List Text}
    (same : files.descend ending here names₁ = files.descend ending progress onward) :
    files.follow ending links here names₁ = files.follow ending links progress onward := by
  rw [follow, follow, same]

theorem follow_of_arrived (arrived : files.descend ending here names₁ = .ok (.arrived target)) :
    files.follow ending links here names₁ = .ok target := by
  rw [follow, arrived]

theorem follow_of_linked {progress : Place} {onward : List Text}
    (linked : files.descend ending here names₁ = .ok (.linked progress onward)) :
    files.follow ending links here names₁ =
      match links with
      | 0 => .error .tooManyLinks
      | links + 1 => files.follow ending links progress onward := by
  cases links with
  | zero => rw [follow, linked]
  | succ links => rw [follow, linked]

theorem Leads.follow (leads : Leads files ending here names₁ used target) (spare : Nat) :
    files.follow ending (used + spare) here names₁ = .ok target := by
  induction leads with
  | here => exact follow_of_arrived rfl
  | stay empty _ ih => rw [follow_of_descend (descend_stay empty), ih]
  | up _ ih => rw [follow_of_descend descend_up, ih]
  | absent admits free => exact follow_of_arrived (by rw [descend_of_admits admits, free])
  | last admits found kept => exact follow_of_arrived (descend_last admits found kept)
  | enter admits more found _ ih => rw [follow_of_descend (descend_enter admits more found), ih]
  | link admits followed found _ ih =>
      rw [follow_of_linked (descend_link admits followed found), Nat.add_right_comm]
      exact ih

theorem leads_of_follow (found : files.follow ending links here names₁ = .ok target) :
    ∃ used ≤ links, Leads files ending here names₁ used target := by
  -- Outside, the links that are left; inside, the names before the next link.
  induction links using Nat.strongRecOn generalizing here names₁ with
  | ind links outer =>
  induction names₁ generalizing here with
  | nil =>
      rw [FileSystem.follow, descend] at found
      cases found
      exact ⟨0, Nat.zero_le _, .here⟩
  | cons name rest inner =>
      by_cases empty : name = [] ∨ name = itself
      · rw [follow_of_descend (descend_stay empty)] at found
        obtain ⟨used, few, onward⟩ := inner found
        exact ⟨used, few, .stay empty onward⟩
      by_cases up : name = above
      · subst up
        rw [follow_of_descend descend_up] at found
        obtain ⟨used, few, onward⟩ := inner found
        exact ⟨used, few, .up onward⟩
      by_cases admits : Admits ending here name rest
      · cases there : files.get? (here ++ [name]) with
        | none =>
            rw [FileSystem.follow, descend_of_admits admits, there] at found
            cases rest with
            | nil =>
                cases found
                exact ⟨0, Nat.zero_le _, .absent admits there⟩
            | cons next rest => cases found
        | some entry =>
            by_cases last : rest = [] ∧ ∀ text, entry = .link text → ending = .kept
            · obtain ⟨rfl, kept⟩ := last
              rw [follow_of_arrived (descend_last admits there kept)] at found
              cases found
              exact ⟨0, Nat.zero_le _, .last admits there kept⟩
            · cases entry with
              | file mode content =>
                  rw [FileSystem.follow, descend_of_admits admits, there] at found
                  cases rest with
                  | nil => simp at last
                  | cons next rest => cases found
              | directory mode =>
                  have more : rest ≠ [] := fun done => last ⟨done, by simp⟩
                  rw [follow_of_descend (descend_enter admits more there)] at found
                  obtain ⟨used, few, onward⟩ := inner found
                  exact ⟨used, few, .enter admits more there onward⟩
              | link text =>
                  have followed : rest = [] → ending ≠ .kept := fun done kept =>
                    last ⟨done, fun _ _ => kept⟩
                  rw [follow_of_linked (descend_link admits followed there)] at found
                  cases links with
                  | zero => cases found
                  | succ links =>
                      obtain ⟨used, few, onward⟩ := outer links (Nat.lt_succ_self _) found
                      exact ⟨used + 1, Nat.succ_le_succ few, .link admits followed there onward⟩
      · obtain ⟨errno, refused⟩ := @descend_of_not_admits files _ _ _ _ admits empty up
        rw [FileSystem.follow, refused] at found
        cases found

/-- Following names is walking by the rules, over no more links than are allowed. -/
theorem follow_eq_ok_iff :
    files.follow ending links here names₁ = .ok target ↔
      ∃ used ≤ links, Leads files ending here names₁ used target := by
  constructor
  · exact leads_of_follow
  · rintro ⟨used, few, leads⟩
    obtain ⟨spare, rfl⟩ := Nat.exists_eq_add_of_le few
    exact leads.follow spare

/-- The target is what is at a place, the root and removed directories being directories, or a free
name. -/
def Target.IsIn (files : FileSystem) : Target → Prop
  | .present place entry => entry = (files.get? place).getD (.directory 0o755)
  | .absent directory name => files.get? (directory ++ [name]) = none

theorem Leads.isIn (leads : Leads files ending here names₁ used target) : target.IsIn files := by
  induction leads with
  | here => rfl
  | stay _ _ ih => exact ih
  | up _ ih => exact ih
  | absent _ free => exact free
  | last _ found => simp [Target.IsIn, found]
  | enter _ _ _ _ ih => exact ih
  | link _ _ _ _ ih => exact ih

/-! ## Walking along directories -/

/-- Names lead from a place to another one, each of them into a directory. -/
inductive Walks (files : FileSystem) : Place → List Text → Nat → Place → Prop
  | done {here : Place} : Walks files here [] 0 here
  | stay {here there : Place} {name : Text} {rest : List Text} {links : Nat}
      (empty : name = [] ∨ name = itself) (onward : Walks files here rest links there) :
      Walks files here (name :: rest) links there
  | up {here there : Place} {rest : List Text} {links : Nat}
      (onward : Walks files here.dropLast rest links there) :
      Walks files here (above :: rest) links there
  | enter {here there : Place} {name : Text} {rest : List Text} {mode links : Nat}
      (admits : Admits .kept here name [])
      (found : files.get? (here ++ [name]) = some (.directory mode))
      (onward : Walks files (here ++ [name]) rest links there) :
      Walks files here (name :: rest) links there
  | link {here there : Place} {name : Text} {rest : List Text} {text : Text} {links : Nat}
      (admits : Admits .kept here name []) (found : files.get? (here ++ [name]) = some (.link text))
      (onward : Walks files (start here text) (names text ++ rest) links there) :
      Walks files here (name :: rest) (links + 1) there

theorem Admits.kept (admits : Admits ending here name rest) : Admits .kept here name [] :=
  { admits with writable := by simp }

theorem Admits.before_name (admits : Admits .kept here name []) {front : List Text} {last : Text}
    (plain : ending = .written → last ≠ []) : Admits ending here name (front ++ [last]) := by
  refine { admits with writable := ?_ }
  rintro ⟨written, slash⟩
  refine plain written ?_
  have : last ∈ slashEnd := slash ▸ (by simp)
  simpa [slashEnd] using this

theorem Walks.append (first : Walks files here names₁ links there)
    (second : Walks files there names₂ used place) :
    Walks files here (names₁ ++ names₂) (links + used) place := by
  induction first with
  | done => simpa using second
  | stay empty _ ih => exact .stay empty (ih second)
  | up _ ih => exact .up (ih second)
  | enter admits found _ ih => exact .enter admits found (ih second)
  | link admits found _ ih =>
      rw [Nat.add_right_comm]
      exact .link admits found (by simpa using ih second)

theorem exists_walks_of_append (walks : Walks files here (names₁ ++ names₂) links there) :
    ∃ first second middle, links = first + second ∧ Walks files here names₁ first middle ∧
      Walks files middle names₂ second there := by
  generalize eq : names₁ ++ names₂ = all at walks
  induction walks generalizing names₁ with
  | done =>
      obtain ⟨rfl, rfl⟩ := List.append_eq_nil_iff.mp eq
      exact ⟨0, 0, _, rfl, .done, .done⟩
  | stay empty onward ih =>
      rcases List.append_eq_cons_iff.mp eq with ⟨rfl, rfl⟩ | ⟨front, rfl, rfl⟩
      · exact ⟨0, _, _, (Nat.zero_add _).symm, .done, .stay empty onward⟩
      · obtain ⟨first, second, middle, sum, before, behind⟩ := ih rfl
        exact ⟨first, second, middle, sum, .stay empty before, behind⟩
  | up onward ih =>
      rcases List.append_eq_cons_iff.mp eq with ⟨rfl, rfl⟩ | ⟨front, rfl, rfl⟩
      · exact ⟨0, _, _, (Nat.zero_add _).symm, .done, .up onward⟩
      · obtain ⟨first, second, middle, sum, before, behind⟩ := ih rfl
        exact ⟨first, second, middle, sum, .up before, behind⟩
  | enter admits found onward ih =>
      rcases List.append_eq_cons_iff.mp eq with ⟨rfl, rfl⟩ | ⟨front, rfl, rfl⟩
      · exact ⟨0, _, _, (Nat.zero_add _).symm, .done, .enter admits found onward⟩
      · obtain ⟨first, second, middle, sum, before, behind⟩ := ih rfl
        exact ⟨first, second, middle, sum, .enter admits found before, behind⟩
  | link admits found onward ih =>
      rcases List.append_eq_cons_iff.mp eq with ⟨rfl, rfl⟩ | ⟨front, rfl, rfl⟩
      · exact ⟨0, _, _, (Nat.zero_add _).symm, .done, .link admits found onward⟩
      · obtain ⟨first, second, middle, sum, before, behind⟩ := ih (List.append_assoc _ _ _)
        exact ⟨first + 1, second, middle, by omega, .link admits found before, behind⟩

/-- Walks along the same names end at one place, over one number of links, also in two trees that
agree on what is in both of them. -/
theorem Walks.agree {other : Place} (walks : Walks files here names₁ links there)
    (walks' : Walks later here names₁ used other)
    (same : ∀ place first second, files.get? place = some first → later.get? place = some second →
      first = second) : links = used ∧ there = other := by
  induction walks generalizing used other with
  | done =>
      cases walks'
      exact ⟨rfl, rfl⟩
  | stay empty _ ih =>
      cases walks' with
      | stay _ onward => exact ih onward
      | up onward => exact absurd empty (by decide)
      | enter admits => exact absurd empty (by simp [admits.nonempty, admits.ne_itself])
      | link admits => exact absurd empty (by simp [admits.nonempty, admits.ne_itself])
  | up _ ih =>
      cases walks' with
      | stay empty => exact absurd empty (by decide)
      | up onward => exact ih onward
      | enter admits => exact absurd rfl admits.ne_above
      | link admits => exact absurd rfl admits.ne_above
  | enter admits found _ ih =>
      cases walks' with
      | stay empty => exact absurd empty (by simp [admits.nonempty, admits.ne_itself])
      | up onward => exact absurd rfl admits.ne_above
      | enter _ _ onward => exact ih onward
      | link _ found' => cases same _ _ _ found found'
  | link admits found _ ih =>
      cases walks' with
      | stay empty => exact absurd empty (by simp [admits.nonempty, admits.ne_itself])
      | up onward => exact absurd rfl admits.ne_above
      | enter _ found' => cases same _ _ _ found found'
      | link _ found' onward =>
          cases same _ _ _ found found'
          obtain ⟨sum, end'⟩ := ih onward
          exact ⟨congrArg Nat.succ sum, end'⟩

theorem Walks.unique {other : Place} (walks : Walks files here names₁ links there)
    (walks' : Walks files here names₁ used other) : links = used ∧ there = other :=
  walks.agree walks' fun _ _ _ first second => Option.some.inj (first.symm.trans second)

/-- What holds of the root, of every directory and with a place of the one above it holds of where
a walk ends. -/
theorem Walks.invariant {holds : Place → Prop} (walks : Walks files here names₁ links there)
    (root : holds []) (directory : ∀ place, files.HasDirectory place → holds place)
    (up : ∀ place, holds place → holds place.dropLast) (begin : holds here) : holds there := by
  induction walks with
  | done => exact begin
  | stay _ _ ih => exact ih begin
  | up _ ih => exact ih (up _ begin)
  | enter _ found _ ih => exact ih (directory _ ⟨_, found⟩)
  | link _ _ _ ih =>
      refine ih ?_
      unfold start
      split
      · exact root
      · exact begin

theorem Walks.isStation (walks : Walks files here names₁ links there)
    (wellformed : files.Wellformed) (begin : files.IsStation here) : files.IsStation there :=
  walks.invariant (.root files) (fun _ directory => directory.isStation)
    (fun _ => wellformed.isStation_dropLast) begin

/-- Later files have all directories and links of the earlier ones. -/
structure Continues (files later : FileSystem) : Prop where
  directory : ∀ place, files.HasDirectory place → later.HasDirectory place
  link : ∀ place text, files.get? place = some (.link text) → later.get? place = some (.link text)

theorem Continues.trans {last : FileSystem} (first : Continues files later)
    (second : Continues later last) : Continues files last where
  directory := fun place there => second.directory place (first.directory place there)
  link := fun place text found => second.link place text (first.link place text found)

theorem Walks.mono (walks : Walks files here names₁ links there)
    (continues : Continues files later) : Walks later here names₁ links there := by
  induction walks with
  | done => exact .done
  | stay empty _ ih => exact .stay empty ih
  | up _ ih => exact .up ih
  | enter admits found _ ih =>
      obtain ⟨mode, kept⟩ := continues.directory _ ⟨_, found⟩
      exact .enter admits kept ih
  | link admits found _ ih => exact .link admits (continues.link _ _ found) ih

/-! ## Walking up to the last name -/

/-- A lookup walks along all names but the last. -/
theorem leads_concat_iff {front : List Text} {last : Text} (plain : ending = .written → last ≠ []) :
    Leads files ending here (front ++ [last]) used target ↔
      ∃ first second middle, used = first + second ∧ Walks files here front first middle ∧
        Leads files ending middle [last] second target := by
  constructor
  · intro leads
    generalize eq : front ++ [last] = all at leads
    induction leads generalizing front with
    | here => simp at eq
    | stay empty onward ih =>
        rcases List.append_eq_cons_iff.mp eq with ⟨rfl, same⟩ | ⟨front, rfl, rfl⟩
        · exact ⟨0, _, _, (Nat.zero_add _).symm, .done, same ▸ .stay empty onward⟩
        · obtain ⟨first, second, middle, sum, before, behind⟩ := ih rfl
          exact ⟨first, second, middle, sum, .stay empty before, behind⟩
    | up onward ih =>
        rcases List.append_eq_cons_iff.mp eq with ⟨rfl, same⟩ | ⟨front, rfl, rfl⟩
        · exact ⟨0, _, _, (Nat.zero_add _).symm, .done, same ▸ .up onward⟩
        · obtain ⟨first, second, middle, sum, before, behind⟩ := ih rfl
          exact ⟨first, second, middle, sum, .up before, behind⟩
    | absent admits free =>
        obtain ⟨rfl, rfl⟩ : front = [] ∧ last = _ := by
          simpa [List.append_eq_singleton_iff] using eq
        exact ⟨0, 0, _, rfl, .done, .absent admits free⟩
    | last admits found kept =>
        obtain ⟨rfl, rfl⟩ : front = [] ∧ last = _ := by
          simpa [List.append_eq_singleton_iff] using eq
        exact ⟨0, 0, _, rfl, .done, .last admits found kept⟩
    | enter admits more found onward ih =>
        rcases List.append_eq_cons_iff.mp eq with ⟨rfl, same⟩ | ⟨front, rfl, rfl⟩
        · exact ⟨0, _, _, (Nat.zero_add _).symm, .done, same ▸ .enter admits more found onward⟩
        · obtain ⟨first, second, middle, sum, before, behind⟩ := ih rfl
          exact ⟨first, second, middle, sum, .enter admits.kept found before, behind⟩
    | link admits followed found onward ih =>
        rcases List.append_eq_cons_iff.mp eq with ⟨rfl, same⟩ | ⟨front, rfl, rfl⟩
        · exact ⟨0, _, _, (Nat.zero_add _).symm, .done, same ▸ .link admits followed found onward⟩
        · obtain ⟨first, second, middle, sum, before, behind⟩ := ih (List.append_assoc _ _ _)
          exact ⟨first + 1, second, middle, by omega, .link admits.kept found before, behind⟩
  · rintro ⟨first, second, middle, rfl, walks, leads⟩
    induction walks with
    | done => simpa using leads
    | stay empty _ ih => exact .stay empty (ih leads)
    | up _ ih => exact .up (ih leads)
    | enter admits found _ ih =>
        exact .enter (admits.before_name plain) (by simp) found (ih leads)
    | link admits found _ ih =>
        rw [Nat.add_right_comm]
        exact .link (admits.before_name plain) (by simp) found (by simpa using ih leads)

theorem leads_nil_iff :
    Leads files ending here [] used target ↔
      used = 0 ∧ target = .present here ((files.get? here).getD (.directory 0o755)) := by
  constructor
  · intro leads
    cases leads
    exact ⟨rfl, rfl⟩
  · rintro ⟨rfl, rfl⟩
    exact .here

/-- What a name leads to in a directory, a link taken as it is. -/
def targetAt (files : FileSystem) (directory : Place) (name : Text) : Target :=
  match files.get? (directory ++ [name]) with
  | some entry => .present (directory ++ [name]) entry
  | none => .absent directory name

theorem leads_name_iff (nonempty : name ≠ []) (ne_itself : name ≠ itself)
    (ne_above : name ≠ above) :
    Leads files .kept here [name] used target ↔
      used = 0 ∧ Admits .kept here name [] ∧ target = files.targetAt here name := by
  constructor
  · intro leads
    cases leads with
    | stay empty => exact absurd empty (by simp [nonempty, ne_itself])
    | up => exact absurd rfl ne_above
    | absent admits free => exact ⟨rfl, admits, by simp [targetAt, free]⟩
    | last admits found => exact ⟨rfl, admits, by simp [targetAt, found]⟩
    | enter _ more => exact absurd rfl more
    | link _ followed => exact absurd rfl (followed rfl)
  · rintro ⟨rfl, admits, rfl⟩
    cases found : files.get? (here ++ [name]) with
    | none => simpa [targetAt, found] using Leads.absent admits found
    | some entry => simpa [targetAt, found] using Leads.last admits found fun _ _ => rfl

end SafeDelete.FileSystem
