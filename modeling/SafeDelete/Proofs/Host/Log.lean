/-
Module: SafeDelete.Proofs.Host.Log
Purpose: What the log files of a project hold after any number of calls, and what may be lost.
Main exports: logsOf, LogSite, LogSite.step, LogCall, CanLog, CanLog.logsOf_runAll,
  logs_lose_only_the_oldest
-/
import SafeDelete.Proofs.Config.Load
import SafeDelete.Proofs.Files.Regular
import SafeDelete.Proofs.Host.Logs

namespace SafeDelete

open FileSystem

variable {project : Text} {files later ready : FileSystem} {directory : Place} {host : Host}

/-! ## The files of the log -/

/-- The directory of the log of a project. -/
def guardPath (project : Text) : PathName :=
  ((PathName.ofText project).below ".claude").below "trash-guard"

/-- The log of a project. -/
def logPath (project : Text) : PathName :=
  (guardPath project).below Host.logName

/-- The log of a project before the present one. -/
def oldLogPath (project : Text) : PathName :=
  (logPath project).withName Host.oldLogName

/-- What can be read at a path.  Where nothing can, there is no content. -/
def contentOf (files : FileSystem) (path : PathName) : Bytes :=
  ((files.read path.toText).toOption).getD []

/-- What the log files of a project hold. -/
def logsOf (project : Text) (files : FileSystem) : Logs :=
  ⟨contentOf files (oldLogPath project), contentOf files (logPath project)⟩

theorem isName_logName : IsName Host.logName := by decide

theorem isName_oldLogName : IsName Host.oldLogName := by decide

/-- The names between the directory of a project and its log. -/
def guardNames : List Text := [".claude", "trash-guard"]

theorem guardPath_eq (project : Text) :
    guardPath project =
      ⟨(PathName.ofText project).root, (PathName.ofText project).parts ++ guardNames⟩ := by
  rw [guardPath, PathName.below_of_isName _ (by decide), PathName.below_of_isName _ (by decide),
    List.append_assoc]
  rfl

theorem logPath_eq (project : Text) :
    logPath project = ⟨(guardPath project).root, (guardPath project).parts ++ [Host.logName]⟩ :=
  PathName.below_of_isName _ isName_logName

theorem oldLogPath_eq (project : Text) :
    oldLogPath project =
      ⟨(guardPath project).root, (guardPath project).parts ++ [Host.oldLogName]⟩ := by
  rw [oldLogPath, logPath_eq, PathName.withName, List.dropLast_concat]

theorem parent_logPath (project : Text) : (logPath project).parent = guardPath project := by
  rw [logPath_eq, PathName.parent, List.dropLast_concat]

theorem proper_guardPath (project : Text) : (guardPath project).Proper :=
  ((PathName.proper_ofText project).below _).below _

theorem logPath?_eq (named : host.environment.get projectVariable = project)
    (there : files.isDirectory project = true) :
    host.logPath? files = some (logPath project) := by
  have some : project.isEmpty = false := by
    cases project with
    | nil => simp [isDirectory, stat, find, resolve] at there
    | cons c rest => rfl
  simp only [Host.logPath?, Host.guardDirectory?, Host.projectDirectory?, named, there, some,
    Bool.not_false, Bool.and_self, if_true, Option.map_some]
  rfl

/-- The directory of the log is there, and in it the two log files, each of them a regular file or
absent. -/
structure LogSite (project : Text) (files : FileSystem) (directory : Place) : Prop where
  wellformed : files.Wellformed
  stands : files.isDirectory project = true
  guard : files.isDirectory (guardPath project).toText = true
  old : files.Spot (oldLogPath project) directory Host.oldLogName
  log : files.Spot (logPath project) directory Host.logName

namespace LogSite

/-- The places of the two log files. -/
def places (directory : Place) : List Place :=
  [directory ++ [Host.oldLogName], directory ++ [Host.logName]]

theorem places_apart : directory ++ [Host.oldLogName] ≠ directory ++ [Host.logName] := by
  intro same
  exact absurd (List.append_cancel_left same) (by decide)

variable (site : LogSite project files directory)

include site

theorem logsOf_eq : logsOf project files =
    ⟨files.contentAt (directory ++ [Host.oldLogName]),
      files.contentAt (directory ++ [Host.logName])⟩ := by
  rw [logsOf, contentOf, contentOf, site.old.toOption_read, site.log.toOption_read]

theorem regular : ∀ place ∈ places directory, files.IsRegular place := by
  intro place mem
  rcases List.mem_pair.mp mem with rfl | rfl
  · exact site.old.regular
  · exact site.log.regular

theorem of_differs (differs : Differs files later (places directory)) :
    LogSite project later directory where
  wellformed := differs.wellformed site.wellformed
  stands := differs.isDirectory site.wellformed site.stands
  guard := differs.isDirectory site.wellformed site.guard
  old := differs.spot site.old (by simp [places])
  log := differs.spot site.log (by simp [places])

/-! ## Rotation -/

theorem isLogFull_eq :
    isLogFull files (logPath project).toText =
      decide (logLimit ≤ (files.contentAt (directory ++ [Host.logName])).length) := by
  rcases site.log.regular.absent_or_file with free | ⟨mode, found⟩
  · rw [isLogFull, stat, site.log.find_of_absent free, contentAt_of_absent free]
    rfl
  · rw [isLogFull, stat, site.log.find_of_present found]

/-- The old log can always be removed, where there is one. -/
theorem dropOldLog? : ∃ cleared, dropOldLog? files (oldLogPath project).toText = some cleared ∧
    Differs files cleared [directory ++ [Host.oldLogName]] ∧
    cleared.get? (directory ++ [Host.oldLogName]) = none := by
  unfold SafeDelete.dropOldLog?
  rw [site.old.exists?]
  cases there : (files.get? (directory ++ [Host.oldLogName])).isSome with
  | false =>
      refine ⟨files, rfl, .refl fun place mem => ?_, ?_⟩
      · exact List.mem_singleton.mp mem ▸ site.old.regular
      · simpa using there
  | true =>
      refine ⟨_, by rw [site.old.unlink there]; rfl, site.old.differs_erase, ?_⟩
      rw [get?_erase files (by simp), if_pos rfl]

/-- A full log becomes the old one, and nothing else changes. -/
theorem rotateLog :
    Differs files (rotateLog files (logPath project).toText (oldLogPath project).toText)
      (places directory) ∧
    logsOf project (SafeDelete.rotateLog files (logPath project).toText
      (oldLogPath project).toText) =
        if logLimit ≤ (logsOf project files).log.length then ⟨(logsOf project files).log, []⟩
        else logsOf project files := by
  rw [SafeDelete.rotateLog, site.isLogFull_eq, site.logsOf_eq]
  dsimp only
  by_cases full : logLimit ≤ (files.contentAt (directory ++ [Host.logName])).length
  · obtain ⟨cleared, drops, differs, free⟩ := site.dropOldLog?
    have there : files.get? (directory ++ [Host.logName]) ≠ none := by
      intro free
      rw [contentAt_of_absent free] at full
      exact absurd full (by decide)
    have kept : cleared.get? (directory ++ [Host.logName]) =
        files.get? (directory ++ [Host.logName]) :=
      differs.same _ fun mem => places_apart (List.mem_singleton.mp mem).symm
    have differs := differs.mono (by simp [places]) site.regular
    have site' := site.of_differs differs
    have there' : cleared.get? (directory ++ [Host.logName]) ≠ none := kept ▸ there
    have moves := differs.trans
      (site'.log.differs_relocate site'.old site'.wellformed there' free)
    simp only [full, drops, decide_true, if_true, site'.log.rename site'.old there' free,
      Except.toOption, Option.getD_some]
    refine ⟨moves, ?_⟩
    have get := site'.log.get?_relocate site'.wellformed there' free
    rw [(site.of_differs moves).logsOf_eq]
    refine congrArg₂ Logs.mk ?_ ?_
    · exact contentAt_congr (by rw [get, if_pos rfl, kept])
    · exact contentAt_of_absent (by rw [get, if_neg places_apart.symm, if_pos rfl])
  · simp only [full, decide_false, Bool.false_eq_true, if_false]
    exact ⟨.refl site.regular, site.logsOf_eq⟩

/-! ## Calls -/

/-- What is appended stands at the end of the log, and nothing else changes. -/
theorem append (record : Bytes) : ∃ later,
    files.append (logPath project).toText record = .ok later ∧
    LogSite project later directory ∧
    logsOf project later =
      ⟨(logsOf project files).old, (logsOf project files).log ++ record⟩ := by
  obtain ⟨mode, appends⟩ := site.log.append record
  have site' := site.of_differs
    ((site.log.differs_insert mode (files.contentAt (directory ++ [Host.logName]) ++ record)).mono
      (by simp [places]) site.regular)
  refine ⟨_, appends, site', ?_⟩
  have get := @get?_insert (directory ++ [Host.logName]) files (by simp)
  rw [site'.logsOf_eq, site.logsOf_eq]
  refine congrArg₂ Logs.mk ?_ ?_
  · exact contentAt_congr (by rw [get, if_neg places_apart])
  · exact contentAt_of_file (by rw [get, if_pos rfl])

/-- A call adds its line to the log, which is made the old one before where it is full. -/
theorem step (named : host.environment.get projectVariable = project) (level message : Text) :
    LogSite project (host.log level message files) directory ∧
      logsOf project (host.log level message files) =
        (logsOf project files).add (Utf8.encode (host.logLine level message)) := by
  have path := logPath?_eq named site.stands
  have made := Effect.makeDirectories_of_isDirectory (proper_guardPath project) site.wellformed
    site.guard Host.logDirectoryMode
  obtain ⟨turns, logs⟩ := site.rotateLog
  obtain ⟨later, appends, site', added⟩ :=
    (site.of_differs turns).append (Utf8.encode (host.logLine level message))
  have same : host.log level message files = later := by
    rw [oldLogPath] at appends
    simp only [Host.log, path, parent_logPath, made, appends, Except.toOption, Option.getD_some]
  rw [same]
  refine ⟨site', ?_⟩
  rw [added, logs, Logs.add]
  split
  · rfl
  · rfl

end LogSite

/-- A call of the log. -/
structure LogCall where
  host : Host
  level : Text
  message : Text

namespace LogCall

/-- The line of a call, as it is written. -/
def record (call : LogCall) : Bytes :=
  Utf8.encode (call.host.logLine call.level call.message)

/-- The files behind a call. -/
def run (files : FileSystem) (call : LogCall) : FileSystem :=
  call.host.log call.level call.message files

/-- The files behind calls, one after the other. -/
def runAll (calls : List LogCall) (files : FileSystem) : FileSystem :=
  calls.foldl run files

/-- The call is for the log of a project. -/
def IsFor (call : LogCall) (project : Text) : Prop :=
  call.host.environment.get projectVariable = project

end LogCall

open LogCall

theorem LogSite.runAll (site : LogSite project files directory) {calls : List LogCall}
    (same : ∀ call ∈ calls, call.IsFor project) :
    logsOf project (runAll calls files) = (logsOf project files).addAll (calls.map record) := by
  induction calls generalizing files with
  | nil => rfl
  | cons call rest ih =>
      obtain ⟨site', logs⟩ := site.step (same call List.mem_cons_self) call.level call.message
      rw [List.map_cons, Logs.addAll_cons, record, ← logs]
      exact ih site' fun call mem => same call (List.mem_cons_of_mem _ mem)

/-! ## Where the log can be written -/

/-- The project is there, the directory of its log is there or can be made, and in it each of the
two log files is a regular file or absent. -/
structure CanLog (project : Text) (files : FileSystem) : Prop where
  wellformed : files.Wellformed
  stands : files.isDirectory project = true
  ready : ∃ ready, Effect.makeDirectories (guardPath project) Host.logDirectoryMode files =
      .ok () ready ∧
    ready.LeadsToRegular (logPath project) ∧ ready.LeadsToRegular (oldLogPath project)

/-- A path that leads to nothing has no content. -/
theorem contentOf_of_not_found {path : PathName}
    (unread : ∀ place entry, files.resolve .followed path.toText ≠ .ok (.present place entry)) :
    contentOf files path = [] := by
  rw [contentOf, FileSystem.read, stat, find]
  cases found : files.resolve .followed path.toText with
  | error errno => rfl
  | ok target =>
      cases target with
      | absent directory name => rfl
      | present place entry => exact absurd found (unread place entry)

/-- Where the directory of the log was made, there were no log files, and there are none. -/
theorem LogSite.logsOf_eq_of_isNew (site : LogSite project ready directory)
    (new : Effect.IsNew files ready (guardPath project))
    (grows : Grows files ready [guardPath project]) (wellformed : files.Wellformed) :
    logsOf project files = logsOf project ready := by
  have proper := proper_guardPath project
  have empty : ∀ {path : PathName} {name : Text}, ready.Spot path directory name →
      path = ⟨(guardPath project).root, (guardPath project).parts ++ [name]⟩ →
      contentOf files path = contentOf ready path := by
    rintro path name spot rfl
    have unread := new.not_found grows wellformed proper spot.isName
    rw [contentOf_of_not_found unread, contentOf, spot.toOption_read]
    obtain ⟨place, into, free⟩ := new
    obtain rfl := into.unique spot.reaches.leadsInto
    have absent := wellformed.absent_of_above free (List.prefix_append place [name])
    rcases spot.regular.absent_or_file with stillAbsent | ⟨mode, found⟩
    · exact (contentAt_of_absent stillAbsent).symm
    · exact absurd (grows.fresh _ _ absent found).1 (by simp [Entry.isDirectory])
  rw [logsOf, logsOf, empty site.old (oldLogPath_eq project), empty site.log (logPath_eq project)]

namespace CanLog

variable (can : CanLog project files)

include can

/-- The first call finds or makes the directory of the log, which changes no log file. -/
theorem exists_site : ∃ ready directory,
    Effect.makeDirectories (guardPath project) Host.logDirectoryMode files = .ok () ready ∧
    LogSite project ready directory ∧ logsOf project files = logsOf project ready := by
  obtain ⟨ready, made, log, old⟩ := can.ready
  have proper := proper_guardPath project
  have grows : Grows files ready [guardPath project] := by
    have grows := Effect.grows_makeDirectories proper Host.logDirectoryMode files
    rwa [made] at grows
  have wellformed := grows.wellformed can.wellformed
  rw [logPath_eq] at log
  rw [oldLogPath_eq] at old
  obtain ⟨directory, log⟩ := log.exists_spot (PathName.isNamed_append proper isName_logName)
  obtain ⟨other, old⟩ := old.exists_spot (PathName.isNamed_append proper isName_oldLogName)
  obtain rfl := log.reaches.leadsInto.unique old.reaches.leadsInto
  rw [PathName.name_mk_append] at log old
  have some : (guardPath project).parts ≠ [] := by
    rw [guardPath_eq]
    simp [guardNames]
  have site : LogSite project ready directory :=
    { wellformed
      stands := isDirectory_mono can.wellformed wellformed grows.kept.continues grows.stands
        can.stands
      guard := log.reaches.isDirectory some proper wellformed
      old := by rwa [oldLogPath_eq]
      log := by rwa [logPath_eq] }
  refine ⟨ready, directory, made, site, ?_⟩
  have news : ready = files ∨ Effect.IsNew files ready (guardPath project) := by
    obtain ⟨place, walks⟩ := (isDirectory_iff can.wellformed).mp can.stands
    rw [guardPath_eq] at made ⊢
    exact Effect.eq_or_isNew_of_makeDirectories can.wellformed (PathName.proper_ofText project)
      walks.leadsInto (by decide) made
  rcases news with rfl | new
  · rfl
  · exact site.logsOf_eq_of_isNew new grows can.wellformed

/-- Every call adds its record to the log. -/
theorem logsOf_runAll {calls : List LogCall} (same : ∀ call ∈ calls, call.IsFor project) :
    logsOf project (runAll calls files) = (logsOf project files).addAll (calls.map record) := by
  obtain ⟨ready, directory, made, site, logs⟩ := can.exists_site
  rw [logs, ← site.runAll same]
  cases calls with
  | nil => exact logs
  | cons call rest =>
      have named := same call List.mem_cons_self
      have again := Effect.makeDirectories_of_isDirectory (proper_guardPath project) site.wellformed
        site.guard Host.logDirectoryMode
      have first : run files call = run ready call := by
        simp only [run, Host.log, logPath?_eq named can.stands, logPath?_eq named site.stands,
          parent_logPath, made, again]
      rw [runAll, runAll, List.foldl_cons, List.foldl_cons, first]

end CanLog

/-- Any number of calls lose nothing but the oldest of what was in the log files and what they
wrote.  Each call puts its record at the end of the log, and a record with less behind it than fills
a log is there in full. -/
theorem logs_lose_only_the_oldest (can : CanLog project files) {calls : List LogCall}
    (same : ∀ call ∈ calls, call.IsFor project) :
    (logsOf project (runAll calls files)).whole <:+
        (logsOf project files).whole ++ (calls.map record).flatten ∧
      ∀ before call later, calls = before ++ call :: later →
        (logsOf project (runAll before files)).Appends
            (logsOf project (runAll (before ++ [call]) files)) call.record ∧
          ((later.map record).flatten.length < logLimit →
            (logsOf project (runAll calls files)).Keeps call.record
              (later.map record).flatten) := by
  refine ⟨?_, ?_⟩
  · rw [can.logsOf_runAll same]
    exact Logs.whole_addAll _ _
  · rintro before call later rfl
    have sameBefore : ∀ call ∈ before, call.IsFor project := fun call mem =>
      same call (List.mem_append_left _ mem)
    have sameUpTo : ∀ other ∈ before ++ [call], other.IsFor project := by
      intro other mem
      rcases List.mem_append.mp mem with earlier | last
      · exact sameBefore other earlier
      · rw [List.mem_singleton.mp last]
        exact same call (List.mem_append_right _ List.mem_cons_self)
    rw [can.logsOf_runAll same, can.logsOf_runAll sameBefore, can.logsOf_runAll sameUpTo]
    simp only [List.map_append, List.map_cons, List.map_nil, Logs.addAll_append, Logs.addAll_cons]
    exact ⟨Logs.appends_add _ _, Logs.keeps_addAll _ _⟩

/-- A machine with a project in which nothing was logged yet. -/
def freshFiles : FileSystem where
  entries := [(["p"], .directory 0o755)]
  workingDirectory := []

/-- A call for that project. -/
def projectCall (message : Text) : LogCall := ⟨Config.projectHost, "INFO", message⟩

theorem canLog_freshFiles : CanLog "/p" freshFiles where
  wellformed := wellformed_of_entries (by decide) (by decide)
  stands := by decide +kernel
  ready := by
    refine ⟨_, rfl, ⟨_, rfl, ?_⟩, _, rfl, ?_⟩
    · rintro place entry ⟨⟩
    · rintro place entry ⟨⟩

theorem logs_lose_only_the_oldest_fresh :
    (logsOf "/p" (runAll [projectCall "a", projectCall "b"] freshFiles)).Keeps
      (projectCall "a").record (projectCall "b").record := by
  have same : ∀ call ∈ [projectCall "a", projectCall "b"], call.IsFor "/p" := by
    intro call mem
    rcases List.mem_pair.mp mem with rfl | rfl
    · rfl
    · rfl
  have few : ([projectCall "b"].map record).flatten.length < logLimit := by decide +kernel
  obtain ⟨-, recent⟩ := (logs_lose_only_the_oldest canLog_freshFiles same).2 [] _ _ rfl
  exact recent few

end SafeDelete
