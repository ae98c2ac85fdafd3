/-
Module: SafeDelete.Proofs.Config.Warnings
Purpose: What is said about a settings file is what the settings made of it do not keep.
Main exports: Config.validateMode_ne_nil_iff, Config.validateTrashCommand_ne_nil_iff,
  Config.validateHookBehavior_ne_nil_iff, Config.validateItems_eq, Config.Keeps,
  Config.WarnsOfLosses, Config.warnings_are_losses
-/
import Mathlib.Tactic.Common
import SafeDelete.Proofs.Config.Setting
import SafeDelete.Proofs.Text.Trim

namespace SafeDelete.Config

variable {file : Json.Fields} {platform : Platform} {key : Text} {value : Json}

/-! ## Single values -/

theorem given?_eq_some_iff :
    given? key file = some value ↔ Json.Fields.get? key file = some value ∧ value ≠ .null := by
  unfold given?
  cases Json.Fields.get? key file with
  | none => simp
  | some found =>
      cases found with
      | null => simp [eq_comm]
      | bool | int | float | str | arr | obj =>
          constructor
          · intro same
            obtain rfl := Option.some.inj same
            exact ⟨rfl, nofun⟩
          · exact And.left

theorem isOneOf_iff {texts : List Text} :
    isOneOf texts value = true ↔ ∃ text ∈ texts, value = .str text := by
  cases value with
  | str text => simp [isOneOf]
  | null | bool | int | float | arr | obj => simp [isOneOf]

/-- Where reading yields one of the texts to choose from, and each of them from itself, the values
that pass are those that are read as they are. -/
theorem isOneOf_iff_of_read {texts : List Text} {read : Json → Text}
    (within : ∀ value, read value ∈ texts) (fixes : ∀ text ∈ texts, read (.str text) = text) :
    isOneOf texts value = true ↔ value = .str (read value) := by
  rw [isOneOf_iff]
  constructor
  · rintro ⟨text, mem, rfl⟩
    rw [fixes text mem]
  · exact fun same => ⟨_, within value, same⟩

theorem isOneOf_modes_iff :
    isOneOf ["deny", "rewrite"] value = true ↔ value = .str (Mode.ofJson value).text := by
  apply @isOneOf_iff_of_read _ _ fun value => (Mode.ofJson value).text
  · intro value
    cases Mode.ofJson value <;> decide
  · decide

theorem isOneOf_levels_iff :
    isOneOf ["normal", "strict"] value = true ↔ value = .str (Level.ofJson value).text := by
  apply @isOneOf_iff_of_read _ _ fun value => (Level.ofJson value).text
  · intro value
    cases Level.ofJson value <;> decide
  · decide

theorem isOneOf_actions_iff :
    isOneOf ["allow", "ask", "deny"] value = true ↔ isAction (some value) = true := by
  rw [isOneOf_iff, isAction_iff]
  constructor
  · rintro ⟨text, mem, rfl⟩
    rcases List.mem_cons.mp mem with rfl | mem
    · exact ⟨.allow, rfl⟩
    rcases List.mem_pair.mp mem with rfl | rfl
    · exact ⟨.ask, rfl⟩
    · exact ⟨.deny, rfl⟩
  · rintro ⟨action, same⟩
    obtain rfl := Option.some.inj same
    refine ⟨_, ?_, rfl⟩
    cases action <;> decide

/-! ## Problems -/

theorem exists_given_iff {holds : Json → Prop} :
    (∃ value, Json.Fields.get? key file = some value ∧ value ≠ .null ∧ holds value) ↔
      ∃ value, given? key file = some value ∧ holds value := by
  refine exists_congr fun value => ?_
  rw [given?_eq_some_iff, and_assoc]

theorem rejects_iff {passes : Bool} {problem : Problem} :
    (if passes then [] else [problem]) ≠ [] ↔ passes = false := by
  cases passes with
  | true => simp
  | false => simp

theorem validateMode_ne_nil_iff : validateMode file ≠ [] ↔
    ∃ value, Json.Fields.get? "mode" file = some value ∧ value ≠ .null ∧
      value ≠ .str (Mode.ofJson value).text := by
  rw [exists_given_iff, validateMode]
  cases given? "mode" file with
  | none => simp
  | some value =>
      rw [rejects_iff, ← Bool.not_eq_true, isOneOf_modes_iff]
      simp

theorem validateLevel_ne_nil_iff : validateLevel file ≠ [] ↔
    ∃ value, Json.Fields.get? "level" file = some value ∧ value ≠ .null ∧
      value ≠ .str (Level.ofJson value).text := by
  rw [exists_given_iff, validateLevel]
  cases given? "level" file with
  | none => simp
  | some value =>
      rw [rejects_iff, ← Bool.not_eq_true, isOneOf_levels_iff]
      simp

/-- The trash command of a file is rejected where it is no text that leaves a command. -/
theorem validateTrashCommand_ne_nil_iff : validateTrashCommand file ≠ [] ↔
    ∃ value, Json.Fields.get? "trashCommand" file = some value ∧ value ≠ .null ∧
      ∀ text, value = .str text → Text.isBlank text = true := by
  rw [exists_given_iff, validateTrashCommand]
  cases given? "trashCommand" file with
  | none => simp
  | some value =>
      cases value with
      | str text => simp
      | null | bool | int | float | arr | obj => simp

theorem validateHookBehavior_ne_nil_iff : validateHookBehavior file ≠ [] ↔
    ∃ value, Json.Fields.get? "hookBehavior" file = some value ∧
      ((∀ given, value ≠ .obj given) ∨ ∃ given found, value = .obj given ∧
        Json.Fields.get? onErrorKey given = some found ∧ isAction (some found) = false) := by
  rw [validateHookBehavior]
  cases Json.Fields.get? "hookBehavior" file with
  | none => simp
  | some value =>
      cases value with
      | obj given =>
          dsimp only
          cases named : Json.Fields.get? onErrorKey given with
          | none => simp [named]
          | some found =>
              dsimp only
              rw [rejects_iff, ← Bool.not_eq_true, isOneOf_actions_iff]
              simp [named]
      | null | bool | int | float | str | arr => simp

/-- Each item of an allow-list that is no text is a problem of its own. -/
theorem validateItems_eq (index : Nat) (items : List Json) :
    validateItems index items = ((items.zipIdx index).filter fun item => item.1.kind ≠ .str).map
      fun item => .allowlistItem item.2 item.1.kind := by
  induction items generalizing index with
  | nil => rfl
  | cons item items ih =>
      rw [List.zipIdx_cons, List.filter_cons]
      cases item with
      | str text => exact ih (index + 1)
      | null | bool | int | float | arr | obj => exact congrArg (List.cons _) (ih (index + 1))

/-! ## Patterns -/

/-- What an item of an allow-list leaves: its trimmed form, if it is a text that is not blank. -/
def patternsOf : Json → List Text
  | .str text => if Text.isBlank text then [] else [text.trim]
  | _ => []

theorem parseAllowlist_arr (items : List Json) :
    parseAllowlist (.arr items) = items.flatMap patternsOf := by
  induction items with
  | nil => rfl
  | cons item items ih =>
      rw [List.flatMap_cons, ← ih]
      cases item with
      | str text =>
          cases blank : Text.isBlank text with
          | true => simp [parseAllowlist, textItems, trimmedItems, patternsOf, blank]
          | false => simp [parseAllowlist, textItems, trimmedItems, patternsOf, blank]
      | null | bool | int | float | arr | obj => rfl

theorem textItems_map_str (texts : List Text) : textItems (texts.map .str) = texts := by
  induction texts with
  | nil => rfl
  | cons text texts ih => exact congrArg (List.cons text) ih

/-- Items that are all texts are the items of a list of texts. -/
theorem exists_map_str {items : List Json} (texts : ∀ item ∈ items, item.kind = .str) :
    ∃ inner : List Text, items = inner.map .str := by
  induction items with
  | nil => exact ⟨[], rfl⟩
  | cons item items ih =>
      obtain ⟨inner, rfl⟩ := ih fun item mem => texts item (List.mem_cons_of_mem _ mem)
      have first := texts item List.mem_cons_self
      cases item with
      | str text => exact ⟨text :: inner, rfl⟩
      | null | bool | int | float | arr | obj => simp [Json.kind] at first

/-! ## Losses -/

/-- What is said about each setting of a file goes with what the settings hold for it. -/
structure WarnsOfLosses (file : Json.Fields) (platform : Platform) (config : Config) : Prop where
  mode : Setting.mode.warnings file ≠ [] ↔ ∃ value,
    Json.Fields.get? "mode" file = some value ∧ value ≠ .null ∧ value ≠ .str config.mode.text
  level : Setting.level.warnings file ≠ [] ↔ ∃ value,
    Json.Fields.get? "level" file = some value ∧ value ≠ .null ∧ value ≠ .str config.level.text
  trashCommand : Setting.trashCommand.warnings file ≠ [] ↔ ∃ value,
    Json.Fields.get? "trashCommand" file = some value ∧ value ≠ .null ∧
      ∀ text, value = .str text → config.trashCommand ≠ text.trim
  /-- A trash command that is lost gives way to that of the platform. -/
  platformCommand : Setting.trashCommand.warnings file ≠ [] →
    config.trashCommand = platform.trashCommand
  /-- Of a list, the items that are no texts are named one by one, and the texts make the
  patterns. -/
  items : ∀ items, Json.Fields.get? "allowlist" file = some (.arr items) →
    Setting.allowlist.warnings file =
      ((items.zipIdx.filter fun item => item.1.kind ≠ .str).map fun item =>
        (Problem.allowlistItem item.2 item.1.kind).message) ∧
    config.allowlist = items.flatMap patternsOf
  noItems : ∀ value, Json.Fields.get? "allowlist" file = some value → value ≠ .null →
    value.kind ≠ .arr → value.kind ≠ .str →
      Setting.allowlist.warnings file = [Problem.allowlist.message] ∧ config.allowlist = []
  plain : (∀ value, Json.Fields.get? "allowlist" file = some value →
    value = .null ∨ value.kind = .str) → Setting.allowlist.warnings file = []
  hookBehavior : Setting.hookBehavior.warnings file ≠ [] ↔ ∃ value,
    Json.Fields.get? "hookBehavior" file = some value ∧
      ((∀ given, value ≠ .obj given) ∨ ∃ given found, value = .obj given ∧
        Json.Fields.get? onErrorKey given = some found ∧
        Json.Fields.get? onErrorKey config.hookBehavior ≠ some found)

/-- The settings hold every value of a file that is there and not null: as it is, trimmed, or cut
into patterns. -/
structure Keeps (file : Json.Fields) (config : Config) : Prop where
  mode : ∀ value, Json.Fields.get? "mode" file = some value → value ≠ .null →
    value = .str config.mode.text
  level : ∀ value, Json.Fields.get? "level" file = some value → value ≠ .null →
    value = .str config.level.text
  trashCommand : ∀ value, Json.Fields.get? "trashCommand" file = some value → value ≠ .null →
    ∃ text, value = .str text ∧ config.trashCommand = text.trim
  allowlist : ∀ value, Json.Fields.get? "allowlist" file = some value → value ≠ .null →
    (∃ text, value = .str text ∧ config.allowlist = trimmedItems (text.splitOn ',')) ∨
      ∃ texts : List Text, value = .arr (texts.map .str) ∧ config.allowlist = trimmedItems texts
  hookBehavior : ∀ value, Json.Fields.get? "hookBehavior" file = some value → value ≠ .null →
    ∃ given, value = .obj given ∧ ∀ key found, Json.Fields.get? key given = some found →
      Json.Fields.get? key config.hookBehavior = some found

theorem warnings_ne_nil_iff {setting : Setting} :
    setting.warnings file ≠ [] ↔ setting.problems file ≠ [] := by
  rw [Setting.warnings_eq, ne_eq, List.map_eq_nil_iff]

/-- The trash command of a file is kept just where it is no problem. -/
theorem trashCommand_ne_iff (found : Json.Fields.get? "trashCommand" file = some value) :
    (∀ text, value = .str text → (build [] file platform).trashCommand ≠ text.trim) ↔
      ∀ text, value = .str text → Text.isBlank text = true := by
  have built : (build [] file platform).trashCommand =
      (fileCommand? file).getD platform.trashCommand := rfl
  rw [built]
  refine forall₂_congr fun text same => ?_
  subst same
  cases blank : Text.isBlank text with
  | false =>
      have named : fileCommand? file = some text.trim :=
        fileCommand?_eq_some_iff.mpr ⟨text, found, blank, rfl⟩
      simp [named]
  | true =>
      have unnamed : fileCommand? file = none := by
        refine fileCommand?_eq_none_iff.mpr fun other same => ?_
        obtain rfl := Json.str.inj (Option.some.inj (found.symm.trans same))
        exact blank
      rw [unnamed, Text.trim_eq_nil_iff.mpr blank]
      simp [platformCommand_ne_nil]

theorem trashCommand_of_warnings (warned : Setting.trashCommand.warnings file ≠ []) :
    (build [] file platform).trashCommand = platform.trashCommand := by
  obtain ⟨value, found, -, blank⟩ :=
    validateTrashCommand_ne_nil_iff.mp (warnings_ne_nil_iff.mp warned)
  have unnamed : fileCommand? file = none := by
    refine fileCommand?_eq_none_iff.mpr fun text same => ?_
    exact blank text (Option.some.inj (found.symm.trans same))
  exact congrArg (Option.getD · platform.trashCommand) unnamed

/-- The action of a file after an error is kept just where it is one. -/
theorem onError_ne_iff {given : Json.Fields} {found : Json}
    (distinct : (Json.Fields.keys (givenBehavior file)).Nodup)
    (there : Json.Fields.get? "hookBehavior" file = some (.obj given))
    (named : Json.Fields.get? onErrorKey given = some found) :
    Json.Fields.get? onErrorKey (buildHookBehavior file) ≠ some found ↔
      isAction (some found) = false := by
  rw [get?_onErrorKey_eq distinct, givenBehavior_of_get? there, named]
  split
  · rename_i action
    simp [action]
  · rename_i other
    rw [Bool.not_eq_true] at other
    refine iff_of_true (fun same => ?_) other
    rw [← same, isAction_iff.mpr ⟨.allow, rfl⟩] at other
    contradiction

theorem hookBehavior_warnings_ne_nil_iff (distinct : (Json.Fields.keys (givenBehavior file)).Nodup) :
    Setting.hookBehavior.warnings file ≠ [] ↔ ∃ value,
      Json.Fields.get? "hookBehavior" file = some value ∧
        ((∀ given, value ≠ .obj given) ∨ ∃ given found, value = .obj given ∧
          Json.Fields.get? onErrorKey given = some found ∧
          Json.Fields.get? onErrorKey (buildHookBehavior file) ≠ some found) := by
  rw [warnings_ne_nil_iff, Setting.problems, validateHookBehavior_ne_nil_iff]
  refine exists_congr fun value => and_congr_right fun there => or_congr_right ?_
  refine exists₂_congr fun given found => and_congr_right fun object => and_congr_right fun named => ?_
  subst object
  exact (onError_ne_iff distinct there named).symm

theorem allowlist_warnings_eq {items : List Json}
    (found : Json.Fields.get? "allowlist" file = some (.arr items)) :
    Setting.allowlist.warnings file =
      (items.zipIdx.filter fun item => item.1.kind ≠ .str).map fun item =>
        (Problem.allowlistItem item.2 item.1.kind).message := by
  have listed : Setting.allowlist.problems file = validateItems 0 items := by
    rw [Setting.problems, validateAllowlist, given?_eq_some_iff.mpr ⟨found, by simp⟩]
  rw [Setting.warnings_eq, listed, validateItems_eq, List.map_map]
  rfl

theorem allowlist_eq (file : Json.Fields) (platform : Platform) :
    (build [] file platform).allowlist =
      parseAllowlist ((Json.Fields.get? "allowlist" file).getD .null) :=
  rfl

theorem allowlist_of_other (found : Json.Fields.get? "allowlist" file = some value)
    (there : value ≠ .null) (noList : value.kind ≠ .arr) (noText : value.kind ≠ .str) :
    Setting.allowlist.warnings file = [Problem.allowlist.message] ∧
      (build [] file platform).allowlist = [] := by
  rw [allowlist_eq, found, Setting.warnings_eq, Setting.problems, validateAllowlist,
    given?_eq_some_iff.mpr ⟨found, there⟩]
  cases value with
  | null => exact absurd rfl there
  | str text => exact absurd rfl noText
  | arr items => exact absurd rfl noList
  | bool | int | float | obj => exact ⟨rfl, rfl⟩

theorem warnsOfLosses_build (distinct : (Json.Fields.keys (givenBehavior file)).Nodup) :
    WarnsOfLosses file platform (build [] file platform) where
  mode := by
    rw [warnings_ne_nil_iff, Setting.problems, validateMode_ne_nil_iff]
    refine exists_congr fun value => and_congr_right fun found => ?_
    have built : (build [] file platform).mode =
        Mode.ofJson ((Json.Fields.get? "mode" file).getD .null) := rfl
    rw [built, found, Option.getD_some]
  level := by
    rw [warnings_ne_nil_iff, Setting.problems, validateLevel_ne_nil_iff]
    refine exists_congr fun value => and_congr_right fun found => ?_
    have built : (build [] file platform).level =
        Level.ofJson ((Json.Fields.get? "level" file).getD .null) := rfl
    rw [built, found, Option.getD_some]
  trashCommand := by
    rw [warnings_ne_nil_iff, Setting.problems, validateTrashCommand_ne_nil_iff]
    refine exists_congr fun value => and_congr_right fun found => and_congr_right fun _ => ?_
    exact (trashCommand_ne_iff found).symm
  platformCommand := trashCommand_of_warnings
  items := by
    intro items found
    refine ⟨allowlist_warnings_eq found, ?_⟩
    rw [allowlist_eq, found, Option.getD_some, parseAllowlist_arr]
  noItems := fun _ => allowlist_of_other
  plain := by
    intro plain
    rw [Setting.warnings_eq, Setting.problems, validateAllowlist]
    cases given : given? "allowlist" file with
    | none => rfl
    | some value =>
        obtain ⟨found, there⟩ := given?_eq_some_iff.mp given
        have text := (plain value found).resolve_left there
        cases value with
        | str text => rfl
        | null | bool | int | float | arr | obj => simp [Json.kind] at text
  hookBehavior := hookBehavior_warnings_ne_nil_iff distinct

theorem warnings_eq_nil (silent : warnings file = []) (setting : Setting) :
    setting.warnings file = [] := by
  rw [Setting.warnings, silent, List.filter_nil]

/-- The items of a list about which nothing is said are texts. -/
theorem exists_texts_of_silent {items : List Json}
    (found : Json.Fields.get? "allowlist" file = some (.arr items))
    (silent : Setting.allowlist.warnings file = []) :
    ∃ texts : List Text, items = texts.map .str := by
  rw [allowlist_warnings_eq found, List.map_eq_nil_iff, List.filter_eq_nil_iff] at silent
  apply exists_map_str
  intro item mem
  obtain ⟨index, small, rfl⟩ := List.mem_iff_getElem.mp mem
  have counted : (items[index], index) ∈ items.zipIdx :=
    List.mem_zipIdx_iff_getElem?.mpr (List.getElem?_eq_getElem small)
  simpa using silent _ counted

theorem allowlist_kept (silent : Setting.allowlist.warnings file = [])
    (found : Json.Fields.get? "allowlist" file = some value) (there : value ≠ .null) :
    (∃ text, value = .str text ∧
      (build [] file platform).allowlist = trimmedItems (text.splitOn ',')) ∨
    ∃ texts : List Text, value = .arr (texts.map .str) ∧
      (build [] file platform).allowlist = trimmedItems texts := by
  cases value with
  | null => exact absurd rfl there
  | str text =>
      rw [allowlist_eq, found]
      exact .inl ⟨text, rfl, rfl⟩
  | arr items =>
      obtain ⟨texts, rfl⟩ := exists_texts_of_silent found silent
      rw [allowlist_eq, found]
      exact .inr ⟨texts, rfl, congrArg trimmedItems (textItems_map_str texts)⟩
  | bool | int | float | obj =>
      obtain ⟨said, -⟩ := @allowlist_of_other file platform _ found there (by simp [Json.kind])
        (by simp [Json.kind])
      rw [silent] at said
      contradiction

theorem hookBehavior_kept (distinct : (Json.Fields.keys (givenBehavior file)).Nodup)
    (silent : Setting.hookBehavior.warnings file = [])
    (found : Json.Fields.get? "hookBehavior" file = some value) :
    ∃ given, value = .obj given ∧ ∀ key field, Json.Fields.get? key given = some field →
      Json.Fields.get? key (buildHookBehavior file) = some field := by
  have warned := (hookBehavior_warnings_ne_nil_iff distinct).mpr
  by_cases object : ∃ given, value = .obj given
  · obtain ⟨given, rfl⟩ := object
    refine ⟨given, rfl, fun key field there => ?_⟩
    by_cases named : key = onErrorKey
    · subst named
      by_contra lost
      exact warned ⟨_, found, .inr ⟨given, field, rfl, there, lost⟩⟩ silent
    · rw [← there, ← givenBehavior_of_get? found]
      exact get?_buildHookBehavior_of_ne distinct named
  · have noObject : ∀ given, value ≠ .obj given := fun given same => object ⟨given, same⟩
    exact absurd silent (warned ⟨value, found, .inl noObject⟩)

/-- A file about which nothing is said loses nothing. -/
theorem keeps_of_silent (distinct : (Json.Fields.keys (givenBehavior file)).Nodup)
    (silent : warnings file = []) : Keeps file (build [] file platform) := by
  have quiet := warnings_eq_nil silent
  have losses := @warnsOfLosses_build file platform distinct
  constructor
  case mode =>
    intro value found there
    by_contra lost
    exact losses.mode.mpr ⟨value, found, there, lost⟩ (quiet .mode)
  case level =>
    intro value found there
    by_contra lost
    exact losses.level.mpr ⟨value, found, there, lost⟩ (quiet .level)
  case trashCommand =>
    intro value found there
    by_contra lost
    refine losses.trashCommand.mpr ⟨value, found, there, fun text same kept => ?_⟩
      (quiet .trashCommand)
    exact lost ⟨text, same, kept⟩
  case allowlist => exact fun _ => allowlist_kept (quiet .allowlist)
  case hookBehavior => exact fun _ found _ => hookBehavior_kept distinct (quiet .hookBehavior) found

/-- What is said about a settings file goes, setting by setting, with what the settings from the file
alone hold; so a file about which nothing is said loses nothing. -/
theorem warnings_are_losses (file : Json.Fields) (platform : Platform)
    (distinct : (Json.Fields.keys (givenBehavior file)).Nodup) :
    WarnsOfLosses file platform (build [] file platform) ∧
      (warnings file = [] → Keeps file (build [] file platform)) :=
  ⟨warnsOfLosses_build distinct, keeps_of_silent distinct⟩

/-- A file with something wrong in each setting but the level. -/
def spoiltFile : Json.Fields :=
  [("mode", .str "ask"), ("level", .str "normal"), ("allowlist", .arr [.str " ls *", .null]),
    ("trashCommand", .str " "), ("hookBehavior", .obj [("onError", .null), ("wait", .int 5)])]

theorem warnings_are_losses_spoilt :
    Setting.mode.warnings spoiltFile ≠ [] ∧ Setting.level.warnings spoiltFile = [] ∧
      Setting.allowlist.warnings spoiltFile =
        [(Problem.allowlistItem 1 .null).message] ∧
      Setting.trashCommand.warnings spoiltFile ≠ [] ∧
      Setting.hookBehavior.warnings spoiltFile ≠ [] ∧
      (build [] spoiltFile Platform.linux).trashCommand = ("gio trash" : Text) := by
  obtain ⟨losses, -⟩ := warnings_are_losses spoiltFile Platform.linux (by decide)
  have trashCommand : Setting.trashCommand.warnings spoiltFile ≠ [] := by
    refine losses.trashCommand.mpr ⟨.str " ", rfl, nofun, fun text same => ?_⟩
    obtain rfl := Json.str.inj same
    decide
  refine ⟨?_, ?_, (losses.items _ rfl).1, trashCommand, ?_, losses.platformCommand trashCommand⟩
  · refine losses.mode.mpr ⟨.str "ask", rfl, nofun, fun same => ?_⟩
    exact absurd (Json.str.inj same) (by decide)
  · by_contra warned
    obtain ⟨value, found, -, lost⟩ := losses.level.mp warned
    exact lost (Option.some.inj found).symm
  · exact losses.hookBehavior.mpr ⟨_, rfl, .inr ⟨_, .null, rfl, rfl, nofun⟩⟩

end SafeDelete.Config
