/-
Module: SafeDelete.Proofs.Config.Setting
Purpose: The settings one by one: their keys, their values, and what is said about each of them.
Main exports: Setting, Setting.key, Setting.valueIn, Setting.warnings, Setting.warnings_eq,
  Config.get?_onErrorKey_buildHookBehavior, Config.get?_onErrorKey_eq,
  Config.get?_buildHookBehavior_of_ne, Config.fileCommand?_eq_some_iff
-/
import SafeDelete.Config.Build
import SafeDelete.Config.Validate
import SafeDelete.Proofs.Json.Readable

namespace SafeDelete

/-- The settings. -/
inductive Setting where
  | mode
  | level
  | allowlist
  | trashCommand
  | hookBehavior
  deriving Repr, DecidableEq

namespace Setting

/-- The settings in the order in which they are written. -/
def all : List Setting :=
  [mode, level, allowlist, trashCommand, hookBehavior]

/-- The key of a setting in a settings file. -/
def key : Setting → Text
  | mode => "mode"
  | level => "level"
  | allowlist => "allowlist"
  | trashCommand => "trashCommand"
  | hookBehavior => "hookBehavior"

/-- The value of a setting. -/
def valueIn (config : Config) : Setting → Json
  | mode => .str config.mode.text
  | level => .str config.level.text
  | allowlist => .arr (config.allowlist.map .str)
  | trashCommand => .str config.trashCommand
  | hookBehavior => .obj config.hookBehavior

/-- The settings as an object hold each setting under its key. -/
theorem toJson_eq (config : Config) :
    config.toJson = .obj (all.map fun setting => (setting.key, setting.valueIn config)) :=
  rfl

/-! ## What is said about a setting -/

/-- A message about a setting names it at its front, or right after it calls it invalid. -/
def isNamedBy (message : Text) (setting : Setting) : Bool :=
  Text.startsWith setting.key message || Text.startsWith ("Invalid " ++ setting.key) message

/-- The setting that a problem is a problem of. -/
def ofProblem : Config.Problem → Setting
  | .mode _ => mode
  | .level _ => level
  | .allowlistItem _ _ => allowlist
  | .allowlist => allowlist
  | .trashCommand => trashCommand
  | .hookBehavior => hookBehavior
  | .onError _ => hookBehavior

theorem isNamedBy_message (problem : Config.Problem) (setting : Setting) :
    setting.isNamedBy problem.message = decide (ofProblem problem = setting) := by
  cases problem with
  | mode found => cases setting <;> rfl
  | level found => cases setting <;> rfl
  | allowlistItem index found => cases setting <;> rfl
  | allowlist => cases setting <;> rfl
  | trashCommand => cases setting <;> rfl
  | hookBehavior => cases setting <;> rfl
  | onError found => cases setting <;> rfl

/-- The problems of a setting. -/
def problems (file : Json.Fields) : Setting → List Config.Problem
  | mode => Config.validateMode file
  | level => Config.validateLevel file
  | allowlist => Config.validateAllowlist file
  | trashCommand => Config.validateTrashCommand file
  | hookBehavior => Config.validateHookBehavior file

theorem validate_eq (file : Json.Fields) : Config.validate file = all.flatMap (problems file) := by
  simp [Config.validate, all, problems]

theorem ofProblem_of_mem_singleton {only problem : Config.Problem} (mem : problem ∈ [only]) :
    ofProblem problem = ofProblem only := by
  rw [List.mem_singleton.mp mem]

theorem ofProblem_of_mem_rejected {passes : Bool} {only problem : Config.Problem}
    (mem : problem ∈ if passes then [] else [only]) : ofProblem problem = ofProblem only := by
  split at mem
  · contradiction
  · exact ofProblem_of_mem_singleton mem

theorem ofProblem_of_mem_validateItems {items : List Json} {index : Nat} {problem : Config.Problem}
    (mem : problem ∈ Config.validateItems index items) : ofProblem problem = allowlist := by
  induction items generalizing index with
  | nil => contradiction
  | cons item items ih =>
      rw [Config.validateItems.eq_def] at mem
      split at mem
      · contradiction
      · rename_i same
        obtain ⟨-, rfl⟩ := List.cons.inj same
        exact ih mem
      · rename_i same
        obtain ⟨-, rfl⟩ := List.cons.inj same
        rcases List.mem_cons.mp mem with rfl | later
        · rfl
        · exact ih later

theorem ofProblem_of_mem {file : Json.Fields} {setting : Setting} {problem : Config.Problem}
    (mem : problem ∈ setting.problems file) : ofProblem problem = setting := by
  cases setting with
  | mode =>
      simp only [problems, Config.validateMode] at mem
      split at mem
      · exact ofProblem_of_mem_rejected mem
      · contradiction
  | level =>
      simp only [problems, Config.validateLevel] at mem
      split at mem
      · exact ofProblem_of_mem_rejected mem
      · contradiction
  | allowlist =>
      simp only [problems, Config.validateAllowlist] at mem
      split at mem
      · contradiction
      · exact ofProblem_of_mem_validateItems mem
      · contradiction
      · exact ofProblem_of_mem_singleton mem
  | trashCommand =>
      simp only [problems, Config.validateTrashCommand] at mem
      split at mem
      · contradiction
      · split at mem
        · exact ofProblem_of_mem_singleton mem
        · contradiction
      · exact ofProblem_of_mem_singleton mem
  | hookBehavior =>
      simp only [problems, Config.validateHookBehavior] at mem
      split at mem
      · contradiction
      · split at mem
        · contradiction
        · exact ofProblem_of_mem_rejected mem
      · exact ofProblem_of_mem_singleton mem

end Setting

/-- What is said about the fields of a settings file. -/
def Config.warnings (file : Json.Fields) : List Text :=
  (validate file).map Problem.message

namespace Setting

/-- What is said about a setting of the file. -/
def warnings (file : Json.Fields) (setting : Setting) : List Text :=
  (Config.warnings file).filter fun message => setting.isNamedBy message

/-- The messages that name a setting are those about its problems. -/
theorem warnings_eq (file : Json.Fields) (setting : Setting) :
    setting.warnings file = (setting.problems file).map Config.Problem.message := by
  have own : ∀ other : Setting, ((other.problems file).filter fun problem =>
      setting.isNamedBy problem.message) =
        if other = setting then setting.problems file else [] := by
    intro other
    split
    · rename_i same
      subst same
      refine List.filter_eq_self.mpr fun problem mem => ?_
      rw [isNamedBy_message, decide_eq_true (ofProblem_of_mem mem)]
    · rename_i apart
      refine List.filter_eq_nil_iff.mpr fun problem mem => ?_
      rw [isNamedBy_message, ofProblem_of_mem mem, decide_eq_false apart]
      exact Bool.false_ne_true
  have messages : setting.warnings file = ((Config.validate file).filter fun problem =>
      setting.isNamedBy problem.message).map Config.Problem.message := List.filter_map
  rw [messages, validate_eq, List.filter_flatMap]
  simp only [own]
  cases setting <;> simp [all]

end Setting

/-! ## The hook behaviour -/

theorem Action.named?_eq_some_iff {text : Text} {action : Action} :
    Action.named? text = some action ↔ action.text = text := by
  constructor
  · intro named
    unfold Action.named? at named
    simpa using List.find?_some named
  · rintro rfl
    cases action <;> rfl

namespace Config

variable {file : Json.Fields} {key : Text}

theorem isAction_iff {value? : Option Json} :
    isAction value? = true ↔ ∃ action : Action, value? = some (.str action.text) := by
  constructor
  · intro isAction
    unfold Config.isAction at isAction
    split at isAction
    · obtain ⟨action, named⟩ := Option.isSome_iff_exists.mp isAction
      exact ⟨action, by rw [Action.named?_eq_some_iff.mp named]⟩
    · contradiction
  · rintro ⟨action, rfl⟩
    rw [isAction, Action.named?_eq_some_iff.mpr rfl]
    rfl

/-- The fields of the hook behaviour in a settings file; none where it is no object. -/
def givenBehavior (file : Json.Fields) : Json.Fields :=
  match Json.Fields.get? "hookBehavior" file with
  | some (.obj given) => given
  | _ => []

theorem givenBehavior_of_get? {given : Json.Fields}
    (found : Json.Fields.get? "hookBehavior" file = some (.obj given)) :
    givenBehavior file = given := by
  rw [givenBehavior, found]

/-- The answer of a hook to an error of its own, where the file does not tell one. -/
def defaultBehavior : Json.Fields :=
  [(onErrorKey, .str Action.allow.text)]

theorem buildHookBehavior_eq (file : Json.Fields) :
    buildHookBehavior file =
      if isAction (Json.Fields.get? onErrorKey
          (Json.Fields.setAll defaultBehavior (givenBehavior file)))
      then Json.Fields.setAll defaultBehavior (givenBehavior file)
      else Json.Fields.set onErrorKey (.str Action.allow.text)
        (Json.Fields.setAll defaultBehavior (givenBehavior file)) := by
  unfold buildHookBehavior givenBehavior
  cases Json.Fields.get? "hookBehavior" file with
  | none => rfl
  | some value => cases value <;> rfl

/-- The hook behaviour names an action after an error, whatever the file holds. -/
theorem get?_onErrorKey_buildHookBehavior (file : Json.Fields) : ∃ action : Action,
    Json.Fields.get? onErrorKey (buildHookBehavior file) = some (.str action.text) := by
  rw [buildHookBehavior_eq]
  split
  · rename_i named
    exact isAction_iff.mp named
  · exact ⟨.allow, Json.Fields.get?_set_self _ _ _⟩

/-- The action after an error is that of the file, if that is one. -/
theorem get?_onErrorKey_eq (distinct : (Json.Fields.keys (givenBehavior file)).Nodup) :
    Json.Fields.get? onErrorKey (buildHookBehavior file) =
      if isAction (Json.Fields.get? onErrorKey (givenBehavior file))
      then Json.Fields.get? onErrorKey (givenBehavior file)
      else some (.str Action.allow.text) := by
  have before : Json.Fields.get? onErrorKey
      (Json.Fields.setAll defaultBehavior (givenBehavior file)) =
        (Json.Fields.get? onErrorKey (givenBehavior file)).or (some (.str Action.allow.text)) :=
    Json.Fields.get?_setAll distinct _ _
  rw [buildHookBehavior_eq, before]
  cases found : Json.Fields.get? onErrorKey (givenBehavior file) with
  | none =>
      rw [Option.none_or, if_pos (isAction_iff.mpr ⟨.allow, rfl⟩), before, found]
      rfl
  | some value =>
      rw [Option.some_or]
      split
      · rw [before, found, Option.some_or]
      · exact Json.Fields.get?_set_self _ _ _

/-- Every other field of the hook behaviour is that of the file. -/
theorem get?_buildHookBehavior_of_ne (distinct : (Json.Fields.keys (givenBehavior file)).Nodup)
    (other : key ≠ onErrorKey) :
    Json.Fields.get? key (buildHookBehavior file) = Json.Fields.get? key (givenBehavior file) := by
  have before : Json.Fields.get? key
      (Json.Fields.setAll defaultBehavior (givenBehavior file)) =
        Json.Fields.get? key (givenBehavior file) := by
    rw [Json.Fields.get?_setAll distinct, defaultBehavior, Json.Fields.get?, if_neg other.symm]
    exact Option.or_none
  rw [buildHookBehavior_eq]
  split
  · exact before
  · rw [Json.Fields.get?_set_of_ne other, before]

/-! ## The trash command -/

theorem fileCommand?_eq_some_iff {command : Text} :
    fileCommand? file = some command ↔ ∃ text, Json.Fields.get? "trashCommand" file =
      some (.str text) ∧ Text.isBlank text = false ∧ command = text.trim := by
  unfold fileCommand?
  split
  · rename_i text found
    rw [found]
    constructor
    · intro named
      split at named
      · contradiction
      · rename_i visible
        exact ⟨text, rfl, Bool.eq_false_iff.mpr visible, (Option.some.inj named).symm⟩
    · rintro ⟨other, same, visible, rfl⟩
      obtain rfl := Json.str.inj (Option.some.inj same)
      rw [visible, if_neg Bool.false_ne_true]
  · rename_i other
    constructor
    · nofun
    · rintro ⟨text, found, -⟩
      exact absurd found (other text)

theorem fileCommand?_eq_none_iff : fileCommand? file = none ↔
    ∀ text, Json.Fields.get? "trashCommand" file = some (.str text) → Text.isBlank text = true := by
  rw [Option.eq_none_iff_forall_ne_some]
  constructor
  · intro unnamed text found
    cases blank : Text.isBlank text with
    | true => rfl
    | false => exact absurd (fileCommand?_eq_some_iff.mpr ⟨text, found, blank, rfl⟩) (unnamed _)
  · intro blank command named
    obtain ⟨text, found, visible, -⟩ := fileCommand?_eq_some_iff.mp named
    rw [blank text found] at visible
    contradiction

theorem platformCommand_ne_nil (platform : Platform) : platform.trashCommand ≠ [] := by
  unfold Platform.trashCommand
  split <;> decide

end Config

end SafeDelete
