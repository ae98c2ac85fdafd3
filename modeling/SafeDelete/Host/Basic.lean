/-
Module: SafeDelete.Host.Basic
Purpose: The machine that the tools run on, and where a project keeps their files.
Main exports: Host, Host.projectDirectory?, Host.configPath?, Host.logPath?
-/
import SafeDelete.Files.Resolve
import SafeDelete.Files.PathName
import SafeDelete.Host.Environment

namespace SafeDelete

/-- What a tool finds when it starts: its environment, its platform and the time. -/
structure Host where
  environment : Environment
  platform : Platform
  /-- The time as year, month and day, a `T`, and hours, minutes and seconds. -/
  time : Text
  deriving Repr

namespace Host

/-- The directory of the project, if the environment names one that is there. -/
def projectDirectory? (host : Host) (files : FileSystem) : Option Text :=
  let directory := host.environment.get projectVariable
  if !directory.isEmpty && files.isDirectory directory then some directory else none

/-- The directory in which a project keeps the files of the hooks. -/
def guardDirectory? (host : Host) (files : FileSystem) : Option PathName :=
  (host.projectDirectory? files).map fun directory =>
    ((PathName.ofText directory).below ".claude").below "trash-guard"

/-- The settings file of the project. -/
def configPath? (host : Host) (files : FileSystem) : Option PathName :=
  (host.guardDirectory? files).map (·.below "config.json")

/-- The name of the log. -/
def logName : Text := "trash-guard.log"

/-- The name of the log before the present one. -/
def oldLogName : Text := "trash-guard.log.1"

/-- The log of the project. -/
def logPath? (host : Host) (files : FileSystem) : Option PathName :=
  (host.guardDirectory? files).map (·.below logName)

end Host

end SafeDelete
