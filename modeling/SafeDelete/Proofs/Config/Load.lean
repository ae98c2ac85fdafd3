/-
Module: SafeDelete.Proofs.Config.Load
Purpose: Which settings are loaded from which settings files, and what keeps them from being loaded.
Main exports: Config.HoldsOctets, Config.HoldsObject, Config.Refuses, Config.load_of_refuses,
  Config.load_of_holdsObject, Config.load_of_neither, Config.refuses_of_load_eq_error,
  Config.eq_build_of_load_eq_ok, Config.load_eq_iff, Config.not_loads_garbled
-/
import SafeDelete.Config.Load
import SafeDelete.Proofs.Files.Effect
import SafeDelete.Proofs.Text.Utf8

namespace SafeDelete.Config

/-!
A settings file that is missing, cannot be opened or holds no object counts as one without fields.
Three things are no such file and stop the loading: a path that cannot be looked at, octets that
are not UTF-8, and a whole number that is too long to be converted.
-/

variable {host : Host} {files : FileSystem} {fields : Json.Fields} {error : InputError}

/-- There is a settings file, and it can be read. -/
def HoldsOctets (host : Host) (files : FileSystem) (content : Bytes) : Prop :=
  ∃ path, host.configPath? files = some path ∧ files.exists? path.toText = .ok true ∧
    files.read path.toText = .ok content

/-- The settings file is an object written in UTF-8. -/
def HoldsObject (host : Host) (files : FileSystem) (fields : Json.Fields) : Prop :=
  ∃ text, HoldsOctets host files (Utf8.encode text) ∧
    Json.parse text.unifyNewlines = .ok (.obj fields)

/-- What keeps the settings from being loaded. -/
inductive Refuses (host : Host) (files : FileSystem) : InputError → Prop where
  | path {path : PathName} {errno : Errno} :
      host.configPath? files = some path → files.exists? path.toText = .error errno →
        Refuses host files (.system (.on path.toText errno))
  | encoding {content : Bytes} {fault : Utf8.Fault} :
      HoldsOctets host files content → (∀ text, content ≠ Utf8.encode text) →
        Utf8.decode content = .error fault → Refuses host files (.encoding fault)
  | oversized {text : Text} {digits : Nat} :
      HoldsOctets host files (Utf8.encode text) →
        Json.parse text.unifyNewlines = .error (.oversized digits) →
          Refuses host files (.oversized digits)

/-! ## Reading the settings file -/

theorem readSettings_of_holdsOctets {content : Bytes} (holds : HoldsOctets host files content) :
    ∃ path, readSettings host files = fieldsOfContent host path content files := by
  obtain ⟨path, named, there, read⟩ := holds
  refine ⟨path.toText, ?_⟩
  simp only [readSettings, named, readSettingsAt, there, read]

theorem readSettings_of_refuses (refuses : Refuses host files error) :
    readSettings host files = .error error files := by
  cases refuses with
  | path named refused => simp only [readSettings, named, readSettingsAt, refused]
  | encoding holds _ fault =>
      obtain ⟨path, eq⟩ := readSettings_of_holdsOctets holds
      rw [eq, fieldsOfContent, fault]
      rfl
  | oversized holds long =>
      obtain ⟨path, eq⟩ := readSettings_of_holdsOctets holds
      rw [eq, fieldsOfContent, Utf8.decode_encode]
      simp only [long]
      rfl

/-- A line of the log never keeps the settings from being loaded. -/
theorem note_bind {level message : Text} {next : Unit → Effect InputError α} :
    (note host level message >>= next) files = next () (host.log level message files) :=
  rfl

theorem noteProblems_eq_ok (host : Host) (problems : List Problem) (files : FileSystem) :
    ∃ later, noteProblems host problems files = .ok () later := by
  induction problems generalizing files with
  | nil => exact ⟨files, rfl⟩
  | cons problem rest ih =>
      rw [noteProblems, note_bind]
      exact ih _

theorem readSettings_of_holdsObject (holds : HoldsObject host files fields) :
    ∃ later, readSettings host files = .ok fields later := by
  obtain ⟨text, octets, parsed⟩ := holds
  obtain ⟨path, eq⟩ := readSettings_of_holdsOctets octets
  obtain ⟨noted, problems⟩ := noteProblems_eq_ok host (validate fields) files
  rw [eq, fieldsOfContent, Utf8.decode_encode]
  simp only [parsed]
  rw [Effect.bind_of_ok problems, note_bind]
  exact ⟨_, rfl⟩

theorem readSettings_of_octets {content : Bytes} (holds : HoldsOctets host files content)
    (noObject : ∀ fields, ¬HoldsObject host files fields)
    (accepts : ∀ error, ¬Refuses host files error) :
    ∃ later, readSettings host files = .ok [] later := by
  obtain ⟨path, eq⟩ := readSettings_of_holdsOctets holds
  rw [eq, fieldsOfContent]
  -- The two assumptions rule out the garbled octets, the number that is too long, and the object.
  cases decoded : Utf8.decode content with
  | error fault =>
      have garbled : ∀ text, content ≠ Utf8.encode text := by
        rintro text rfl
        rw [Utf8.decode_encode] at decoded
        contradiction
      exact absurd (.encoding holds garbled decoded) (accepts _)
  | ok text =>
      obtain rfl := Utf8.decode_eq_ok_iff.mp decoded
      cases parsed : Json.parse text.unifyNewlines with
      | error error =>
          cases error with
          | malformed fault place =>
              simp only [parsed]
              exact ⟨_, rfl⟩
          | oversized digits => exact absurd (.oversized holds parsed) (accepts _)
      | ok value =>
          cases value with
          | obj fields => exact absurd ⟨text, holds, parsed⟩ (noObject fields)
          | null | bool | int | float | str | arr =>
              simp only [parsed]
              exact ⟨_, rfl⟩

theorem readSettings_of_neither (noObject : ∀ fields, ¬HoldsObject host files fields)
    (accepts : ∀ error, ¬Refuses host files error) :
    ∃ later, readSettings host files = .ok [] later := by
  cases named : host.configPath? files with
  | none => exact ⟨files, by simp only [readSettings, named]⟩
  | some path =>
      cases there : files.exists? path.toText with
      | error errno => exact absurd (.path named there) (accepts _)
      | ok found =>
          cases found with
          | false => exact ⟨files, by simp only [readSettings, named, readSettingsAt, there]⟩
          | true =>
              cases read : files.read path.toText with
              | error errno =>
                  simp only [readSettings, named, readSettingsAt, there, read]
                  exact ⟨_, rfl⟩
              | ok content =>
                  exact readSettings_of_octets ⟨path, named, there, read⟩ noObject accepts

/-! ## Loading the settings -/

theorem load_of_refuses (refuses : Refuses host files error) :
    load host files = .error error files :=
  Effect.bind_of_error (readSettings_of_refuses refuses)

theorem load_of_holdsObject (holds : HoldsObject host files fields) :
    ∃ after, load host files = .ok (build host.environment fields host.platform) after := by
  obtain ⟨after, read⟩ := readSettings_of_holdsObject holds
  exact ⟨after, Effect.bind_of_ok read⟩

theorem load_of_neither (noObject : ∀ fields, ¬HoldsObject host files fields)
    (accepts : ∀ error, ¬Refuses host files error) :
    ∃ after, load host files = .ok (build host.environment [] host.platform) after := by
  obtain ⟨after, read⟩ := readSettings_of_neither noObject accepts
  exact ⟨after, Effect.bind_of_ok read⟩

theorem holds_or_refuses_or_neither (host : Host) (files : FileSystem) :
    (∃ fields, HoldsObject host files fields) ∨ (∃ error, Refuses host files error) ∨
      (∀ fields, ¬HoldsObject host files fields) ∧ ∀ error, ¬Refuses host files error := by
  by_cases object : ∃ fields, HoldsObject host files fields
  · exact .inl object
  by_cases refused : ∃ error, Refuses host files error
  · exact .inr (.inl refused)
  · exact .inr (.inr ⟨not_exists.mp object, not_exists.mp refused⟩)

/-- Settings that are not loaded were refused, and nothing was changed. -/
theorem refuses_of_load_eq_error {after : FileSystem}
    (refused : load host files = .error error after) :
    after = files ∧ Refuses host files error := by
  rcases holds_or_refuses_or_neither host files with
    ⟨fields, holds⟩ | ⟨cause, refuses⟩ | ⟨noObject, accepts⟩
  · obtain ⟨later, loaded⟩ := load_of_holdsObject holds
    rw [loaded] at refused
    contradiction
  · rw [load_of_refuses refuses] at refused
    obtain ⟨rfl, rfl⟩ := EStateM.Result.error.inj refused
    exact ⟨rfl, refuses⟩
  · obtain ⟨later, loaded⟩ := load_of_neither noObject accepts
    rw [loaded] at refused
    contradiction

/-- Settings that are loaded are those of the object in the file, or of a file without fields. -/
theorem eq_build_of_load_eq_ok {config : Config} {after : FileSystem}
    (loaded : load host files = .ok config after) :
    (∃ fields, HoldsObject host files fields ∧
        config = build host.environment fields host.platform) ∨
      ((∀ fields, ¬HoldsObject host files fields) ∧ (∀ error, ¬Refuses host files error) ∧
        config = build host.environment [] host.platform) := by
  rcases holds_or_refuses_or_neither host files with
    ⟨fields, holds⟩ | ⟨cause, refuses⟩ | ⟨noObject, accepts⟩
  · obtain ⟨later, same⟩ := load_of_holdsObject holds
    obtain ⟨rfl, -⟩ := EStateM.Result.ok.inj (same.symm.trans loaded)
    exact .inl ⟨fields, holds, rfl⟩
  · rw [load_of_refuses refuses] at loaded
    contradiction
  · obtain ⟨later, same⟩ := load_of_neither noObject accepts
    obtain ⟨rfl, -⟩ := EStateM.Result.ok.inj (same.symm.trans loaded)
    exact .inr ⟨noObject, accepts, rfl⟩

/-- The settings are loaded unless something refuses them, and nothing is changed where it does.
They are those of the object in the settings file, or else those of a file without fields. -/
theorem load_eq_iff (host : Host) (files : FileSystem) :
    (∀ error after,
      load host files = .error error after ↔ after = files ∧ Refuses host files error) ∧
    ∀ config, (∃ after, load host files = .ok config after) ↔
      (∃ fields, HoldsObject host files fields ∧
        config = build host.environment fields host.platform) ∨
      ((∀ fields, ¬HoldsObject host files fields) ∧ (∀ error, ¬Refuses host files error) ∧
        config = build host.environment [] host.platform) := by
  constructor
  · intro error after
    refine ⟨refuses_of_load_eq_error, ?_⟩
    rintro ⟨rfl, refuses⟩
    exact load_of_refuses refuses
  · intro config
    constructor
    · rintro ⟨after, loaded⟩
      exact eq_build_of_load_eq_ok loaded
    · rintro (⟨fields, holds, rfl⟩ | ⟨noObject, accepts, rfl⟩)
      · exact load_of_holdsObject holds
      · exact load_of_neither noObject accepts

/-- A machine whose project has a settings file with these octets. -/
def settingsFiles (content : Bytes) : FileSystem where
  entries := [(["p"], .directory 0o755), (["p", ".claude"], .directory 0o755),
    (["p", ".claude", "trash-guard"], .directory 0o755),
    (["p", ".claude", "trash-guard", "config.json"], .file 0o644 content)]
  workingDirectory := []

/-- A machine that names this project. -/
def projectHost : Host := ⟨[(projectVariable, "/p")], Platform.linux, "2024-01-01T00:00:00"⟩

/-- A single octet that is no text keeps the settings from being loaded. -/
theorem not_loads_garbled :
    load projectHost (settingsFiles [0xFF]) =
        .error (.encoding ⟨.startByte, 0, 0xFF, 1⟩) (settingsFiles [0xFF]) ∧
      ¬∃ config after, load projectHost (settingsFiles [0xFF]) = .ok config after := by
  have refused : load projectHost (settingsFiles [0xFF]) =
      .error (.encoding ⟨.startByte, 0, 0xFF, 1⟩) (settingsFiles [0xFF]) := rfl
  refine ⟨refused, ?_⟩
  rintro ⟨config, after, loaded⟩
  rw [refused] at loaded
  contradiction

end SafeDelete.Config
