/-
Module: SafeDelete.Proofs.Config.Precedence
Purpose: The settings are well formed whatever they are made of, and each of them follows its own
  variable, then its own key of the file, then its default.
Main exports: Config.Counts, Config.CommandCounts, Setting.IsSetIn, Setting.Agree,
  Setting.valueIn_eq_of_agree, Config.IsWellFormed, Config.isWellFormed_build, Config.Follows,
  Config.follows_build, Config.settings_follow_precedence
-/
import Mathlib.Tactic.Common
import SafeDelete.Proofs.Config.Setting
import SafeDelete.Proofs.Text.Trim

namespace SafeDelete

variable {environment other : Environment} {file : Json.Fields} {platform : Platform}

/-! ## What counts -/

namespace Config

/-- A value counts for a key: that of its variable where this is not empty, else that of the file. -/
inductive Counts (environment : Environment) (file : Json.Fields) (name key : Text) : Json → Prop where
  | ofVariable : environment.get name ≠ [] → Counts environment file name key
      (.str (environment.get name))
  | ofFile {value : Json} : environment.get name = [] → Json.Fields.get? key file = some value →
      Counts environment file name key value

/-- A trash command counts: that of the variable where this is not blank, else a text of the file
that is not blank, else that of the platform. -/
inductive CommandCounts (environment : Environment) (file : Json.Fields) (platform : Platform) :
    Text → Prop where
  | ofVariable : Text.isBlank (environment.get commandVariable) = false →
      CommandCounts environment file platform (environment.get commandVariable).trim
  | ofFile {text : Text} : Text.isBlank (environment.get commandVariable) = true →
      Json.Fields.get? "trashCommand" file = some (.str text) → Text.isBlank text = false →
        CommandCounts environment file platform text.trim
  | ofPlatform : Text.isBlank (environment.get commandVariable) = true →
      (∀ text, Json.Fields.get? "trashCommand" file = some (.str text) →
        Text.isBlank text = true) →
          CommandCounts environment file platform platform.trashCommand

variable {name key : Text} {value : Json}

theorem pick_of_counts (counts : Counts environment file name key value) :
    pick environment file name key = value := by
  cases counts with
  | ofVariable given => simp [pick, given]
  | ofFile unset found => simp [pick, unset, found]

theorem pick_of_not_counts (nothing : ∀ value, ¬Counts environment file name key value) :
    pick environment file name key = .null := by
  have unset : environment.get name = [] := by
    by_contra given
    exact nothing _ (.ofVariable given)
  cases found : Json.Fields.get? key file with
  | none => simp [pick, unset, found]
  | some value => exact absurd (.ofFile unset found) (nothing value)

/-- A value that is not null is picked just where it counts. -/
theorem pick_eq_iff (there : value ≠ .null) :
    pick environment file name key = value ↔ Counts environment file name key value := by
  refine ⟨fun picked => ?_, pick_of_counts⟩
  by_cases some : ∃ value, Counts environment file name key value
  · obtain ⟨found, counts⟩ := some
    rw [← picked, pick_of_counts counts]
    exact counts
  · rw [pick_of_not_counts fun value counts => some ⟨value, counts⟩] at picked
    exact absurd picked.symm there

theorem commandCounts_buildTrashCommand (environment : Environment) (file : Json.Fields)
    (platform : Platform) : CommandCounts environment file platform
      (buildTrashCommand environment file platform) := by
  cases blank : Text.isBlank (environment.get commandVariable) with
  | false =>
      have named : (environment.get commandVariable).trim.isEmpty = false := by
        rw [List.isEmpty_eq_false_iff, ne_eq, Text.trim_eq_nil_iff, blank]
        exact Bool.false_ne_true
      simp only [buildTrashCommand, named]
      exact .ofVariable blank
  | true =>
      have unnamed : (environment.get commandVariable).trim.isEmpty = true := by
        rw [List.isEmpty_iff, Text.trim_eq_nil_iff, blank]
      simp only [buildTrashCommand, unnamed, if_true]
      cases named : fileCommand? file with
      | none => exact .ofPlatform blank (fileCommand?_eq_none_iff.mp named)
      | some command =>
          obtain ⟨text, found, visible, rfl⟩ := fileCommand?_eq_some_iff.mp named
          exact .ofFile blank found visible

end Config

/-! ## Independence -/

namespace Setting

/-- The variable that is read for a setting. -/
def variableName? : Setting → Option Text
  | mode => some modeVariable
  | level => some levelVariable
  | allowlist => some allowlistVariable
  | trashCommand => some commandVariable
  | hookBehavior => none

/-- The variable of a setting holds something: a command is more than blanks. -/
def IsSetIn (environment : Environment) : Setting → Prop
  | mode => environment.get modeVariable ≠ []
  | level => environment.get levelVariable ≠ []
  | allowlist => environment.get allowlistVariable ≠ []
  | trashCommand => Text.isBlank (environment.get commandVariable) = false
  | hookBehavior => False

/-- Two runs find the same for a setting: in its own variable; in its own key of the file, unless the
variable holds something; and, for the trash command, the same platform. -/
structure Agree (setting : Setting) (environment other : Environment)
    (file otherFile : Json.Fields) (platform otherPlatform : Platform) : Prop where
  sameVariable : ∀ name ∈ setting.variableName?, other.get name = environment.get name
  sameKey : ¬setting.IsSetIn environment →
    Json.Fields.get? setting.key otherFile = Json.Fields.get? setting.key file
  samePlatform : setting = trashCommand → otherPlatform = platform

variable {setting : Setting} {otherFile : Json.Fields} {otherPlatform : Platform} {name key : Text}

theorem pick_congr (same : other.get name = environment.get name)
    (files : environment.get name = [] →
      Json.Fields.get? key otherFile = Json.Fields.get? key file) :
    Config.pick other otherFile name key = Config.pick environment file name key := by
  simp only [Config.pick, same]
  split
  · rename_i unset
    rw [files (List.isEmpty_iff.mp unset)]
  · rfl

theorem buildTrashCommand_congr
    (same : other.get commandVariable = environment.get commandVariable)
    (files : Text.isBlank (environment.get commandVariable) = true →
      Json.Fields.get? "trashCommand" otherFile = Json.Fields.get? "trashCommand" file) :
    Config.buildTrashCommand other otherFile platform =
      Config.buildTrashCommand environment file platform := by
  simp only [Config.buildTrashCommand, same]
  split
  · rename_i unset
    rw [List.isEmpty_iff, Text.trim_eq_nil_iff] at unset
    rw [Config.fileCommand?, files unset, Config.fileCommand?]
  · rfl

/-- A setting follows its own variable, its own key and, for the trash command, the platform. -/
theorem valueIn_eq_of_agree
    (agree : setting.Agree environment other file otherFile platform otherPlatform) :
    setting.valueIn (Config.build other otherFile otherPlatform) =
      setting.valueIn (Config.build environment file platform) := by
  cases setting with
  | mode =>
      have picked := pick_congr (agree.sameVariable _ rfl) fun unset => agree.sameKey (not_not.mpr unset)
      exact congrArg (fun value => Json.str (Mode.ofJson value).text) picked
  | level =>
      have picked := pick_congr (agree.sameVariable _ rfl) fun unset => agree.sameKey (not_not.mpr unset)
      exact congrArg (fun value => Json.str (Level.ofJson value).text) picked
  | allowlist =>
      have picked := pick_congr (agree.sameVariable _ rfl) fun unset => agree.sameKey (not_not.mpr unset)
      exact congrArg (fun value => Json.arr ((parseAllowlist value).map .str)) picked
  | trashCommand =>
      obtain rfl := agree.samePlatform rfl
      have files : Text.isBlank (environment.get commandVariable) = true →
          Json.Fields.get? "trashCommand" otherFile = Json.Fields.get? "trashCommand" file := by
        intro blank
        exact agree.sameKey fun given => Bool.false_ne_true (given.symm.trans blank)
      exact congrArg Json.str (buildTrashCommand_congr (agree.sameVariable _ rfl) files)
  | hookBehavior =>
      have files : Json.Fields.get? "hookBehavior" otherFile =
          Json.Fields.get? "hookBehavior" file := agree.sameKey not_false
      have built : Config.buildHookBehavior otherFile = Config.buildHookBehavior file := by
        rw [Config.buildHookBehavior, files, Config.buildHookBehavior]
      exact congrArg Json.obj built

end Setting

/-! ## The settings as a whole -/

namespace Config

/-- The contents of a settings file: an object, or null. -/
def contents : Option Json.Fields → Json
  | none => .null
  | some fields => .obj fields

theorem ofFile_contents (environment : Environment) (given : Option Json.Fields)
    (platform : Platform) : ofFile environment (contents given) platform =
      .ok (build environment (given.getD []) platform) := by
  cases given with
  | none => rfl
  | some fields => cases fields <;> rfl

/-- The settings with their keys. -/
def toFields (config : Config) : Json.Fields :=
  Setting.all.map fun setting => (setting.key, setting.valueIn config)

theorem get?_toFields (config : Config) (setting : Setting) :
    Json.Fields.get? setting.key config.toFields = some (setting.valueIn config) := by
  cases setting <;> rfl

/-- What can be relied on in settings made of a file. -/
structure IsWellFormed (file settings : Json.Fields) : Prop where
  mode : Json.Fields.get? "mode" settings = some (.str "deny") ∨
    Json.Fields.get? "mode" settings = some (.str "rewrite")
  level : Json.Fields.get? "level" settings = some (.str "normal") ∨
    Json.Fields.get? "level" settings = some (.str "strict")
  allowlist : ∃ patterns : List Text,
    Json.Fields.get? "allowlist" settings = some (.arr (patterns.map .str)) ∧
      ∀ pattern ∈ patterns, pattern ≠ [] ∧ pattern.trim = pattern
  trashCommand : ∃ command : Text, Json.Fields.get? "trashCommand" settings = some (.str command) ∧
    command ≠ [] ∧ command.trim = command
  /-- The hook behaviour names an action after an error, and else is what the file holds. -/
  hookBehavior : ∃ behavior, Json.Fields.get? "hookBehavior" settings = some (.obj behavior) ∧
    (∃ action : Action,
      Json.Fields.get? onErrorKey behavior = some (.str action.text)) ∧
    ∀ key ≠ onErrorKey,
      Json.Fields.get? key behavior = Json.Fields.get? key (givenBehavior file)

theorem trimmedItems_eq (items : List Text) :
    trimmedItems items = (items.map Text.trim).filter (· ≠ []) := by
  rw [trimmedItems, List.filter_map]
  congr 1
  refine List.filter_congr fun item _ => ?_
  cases blank : Text.isBlank item with
  | true => simp [Text.trim_eq_nil_iff, blank]
  | false => simp [Text.trim_eq_nil_iff, blank]

/-- The texts that an allow-list offers as patterns: the parts of a text, or the texts of a list. -/
def offered : Json → List Text
  | .str text => text.splitOn ','
  | .arr items => textItems items
  | _ => []

theorem parseAllowlist_eq (value : Json) :
    parseAllowlist value = ((offered value).map Text.trim).filter (· ≠ []) := by
  rw [← trimmedItems_eq]
  cases value <;> rfl

theorem isTrimmed_of_mem_parseAllowlist {value : Json} {pattern : Text}
    (mem : pattern ∈ parseAllowlist value) : pattern ≠ [] ∧ pattern.trim = pattern := by
  rw [parseAllowlist_eq] at mem
  obtain ⟨offers, something⟩ := List.mem_filter.mp mem
  obtain ⟨item, -, rfl⟩ := List.mem_map.mp offers
  exact ⟨of_decide_eq_true something, Text.trim_trim item⟩

theorem isTrimmed_of_commandCounts {command : Text}
    (counts : CommandCounts environment file platform command) :
    command ≠ [] ∧ command.trim = command := by
  cases counts with
  | ofVariable visible =>
      refine ⟨fun nothing => ?_, Text.trim_trim _⟩
      rw [Text.trim_eq_nil_iff.mp nothing] at visible
      contradiction
  | ofFile _ _ visible =>
      refine ⟨fun nothing => ?_, Text.trim_trim _⟩
      rw [Text.trim_eq_nil_iff.mp nothing] at visible
      contradiction
  | ofPlatform =>
      refine ⟨platformCommand_ne_nil platform, ?_⟩
      unfold Platform.trashCommand
      split <;> decide

theorem isWellFormed_build (environment : Environment) (platform : Platform)
    (distinct : (Json.Fields.keys (givenBehavior file)).Nodup) :
    IsWellFormed file (build environment file platform).toFields where
  mode := by
    have found := get?_toFields (build environment file platform) .mode
    cases mode : (build environment file platform).mode with
    | deny =>
        rw [Setting.valueIn, mode] at found
        exact .inl found
    | rewrite =>
        rw [Setting.valueIn, mode] at found
        exact .inr found
  level := by
    have found := get?_toFields (build environment file platform) .level
    cases level : (build environment file platform).level with
    | normal =>
        rw [Setting.valueIn, level] at found
        exact .inl found
    | strict =>
        rw [Setting.valueIn, level] at found
        exact .inr found
  allowlist :=
    ⟨_, get?_toFields _ .allowlist, fun _ => isTrimmed_of_mem_parseAllowlist⟩
  trashCommand := ⟨_, get?_toFields _ .trashCommand, isTrimmed_of_commandCounts
    (commandCounts_buildTrashCommand environment file platform)⟩
  hookBehavior := ⟨_, get?_toFields _ .hookBehavior, get?_onErrorKey_buildHookBehavior file,
    fun _ => get?_buildHookBehavior_of_ne distinct⟩

/-- Each setting is made of what counts for it. -/
structure Follows (environment : Environment) (file : Json.Fields) (platform : Platform)
    (config : Config) : Prop where
  mode : config.mode = .deny ↔ Counts environment file modeVariable "mode" (.str "deny")
  level : config.level = .normal ↔ Counts environment file levelVariable "level" (.str "normal")
  /-- The patterns are what trimming leaves of the texts of the list or of the parts of the text. -/
  allowlist : ∀ value, Counts environment file allowlistVariable "allowlist" value →
    config.allowlist = ((offered value).map Text.trim).filter (· ≠ [])
  noAllowlist : (∀ value, ¬Counts environment file allowlistVariable "allowlist" value) →
    config.allowlist = []
  trashCommand : CommandCounts environment file platform config.trashCommand

theorem ofJson_eq_deny_iff {value : Json} : Mode.ofJson value = .deny ↔ value = .str "deny" := by
  cases value with
  | str text =>
      rw [Mode.ofJson]
      split
      · rename_i same
        exact iff_of_true rfl (congrArg Json.str same)
      · rename_i other
        exact iff_of_false nofun fun same => other (Json.str.inj same)
  | null | bool | int | float | arr | obj => exact iff_of_false nofun nofun

theorem ofJson_eq_normal_iff {value : Json} :
    Level.ofJson value = .normal ↔ value = .str "normal" := by
  cases value with
  | str text =>
      rw [Level.ofJson, Level.ofText]
      split
      · rename_i same
        exact iff_of_true rfl (congrArg Json.str same)
      · rename_i other
        exact iff_of_false nofun fun same => other (Json.str.inj same)
  | null | bool | int | float | arr | obj => exact iff_of_false nofun nofun

theorem follows_build (environment : Environment) (file : Json.Fields) (platform : Platform) :
    Follows environment file platform (build environment file platform) where
  mode := ofJson_eq_deny_iff.trans (pick_eq_iff nofun)
  level := ofJson_eq_normal_iff.trans (pick_eq_iff nofun)
  allowlist := by
    intro value counts
    rw [← parseAllowlist_eq, ← pick_of_counts counts]
    rfl
  noAllowlist := fun nothing => congrArg parseAllowlist (pick_of_not_counts nothing)
  trashCommand := commandCounts_buildTrashCommand environment file platform

/-- From every environment, every object or null and on every platform settings are made.  They are
well formed, each follows its variable, then the file, then its default, and two runs that agree on
what is read for a setting yield the same for it, whatever else they find. -/
theorem settings_follow_precedence (environment : Environment) (given : Option Json.Fields)
    (platform : Platform)
    (distinct : (Json.Fields.keys (givenBehavior (given.getD []))).Nodup) :
    ∃ config, ofFile environment (contents given) platform = .ok config ∧
      config.toJson = .obj config.toFields ∧ IsWellFormed (given.getD []) config.toFields ∧
      Follows environment (given.getD []) platform config ∧
      ∀ (setting : Setting) (other : Environment) (otherGiven : Option Json.Fields)
        (otherPlatform : Platform),
        setting.Agree environment other (given.getD []) (otherGiven.getD []) platform
          otherPlatform →
        ∃ otherConfig, ofFile other (contents otherGiven) otherPlatform = .ok otherConfig ∧
          Json.Fields.get? setting.key otherConfig.toFields =
            Json.Fields.get? setting.key config.toFields := by
  refine ⟨_, ofFile_contents environment given platform, Setting.toJson_eq _,
    isWellFormed_build environment platform distinct, follows_build environment _ platform, ?_⟩
  intro setting other otherGiven otherPlatform agree
  refine ⟨_, ofFile_contents other otherGiven otherPlatform, ?_⟩
  rw [get?_toFields, get?_toFields, Setting.valueIn_eq_of_agree agree]

/-- A file that the environment overrides in one setting. -/
def overriddenFile : Json.Fields :=
  [("mode", .str "rewrite"), ("allowlist", .arr [.str " ls *", .int 1]),
    ("hookBehavior", .obj [("onError", .str "stop"), ("wait", .int 5)])]

theorem settings_follow_precedence_overridden : ∃ config,
    ofFile [(modeVariable, "deny")] (.obj overriddenFile) Platform.linux = .ok config ∧
      IsWellFormed overriddenFile config.toFields ∧ config.mode = .deny ∧
      config.allowlist = ["ls *"] ∧
      ∃ otherConfig, ofFile [(modeVariable, "deny")] .null Platform.darwin = .ok otherConfig ∧
        Json.Fields.get? "mode" otherConfig.toFields = Json.Fields.get? "mode" config.toFields := by
  obtain ⟨config, made, -, wellFormed, follows, independent⟩ := settings_follow_precedence
    [(modeVariable, "deny")] (some overriddenFile) Platform.linux (by decide)
  have given : Environment.get [(modeVariable, "deny")] modeVariable = ("deny" : Text) := by decide
  have listed : Counts [(modeVariable, "deny")] overriddenFile allowlistVariable "allowlist"
      (.arr [.str " ls *", .int 1]) := .ofFile (by decide) rfl
  refine ⟨config, made, wellFormed, follows.mode.mpr ?_, (follows.allowlist _ listed).trans ?_,
    independent .mode _ none Platform.darwin ⟨fun _ _ => rfl, ?_, nofun⟩⟩
  · rw [← given]
    exact .ofVariable (by decide)
  · decide
  · intro unset
    have set : Environment.get [(modeVariable, "deny")] modeVariable ≠ [] := by decide
    exact absurd set unset

end Config

end SafeDelete
