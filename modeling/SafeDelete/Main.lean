/-
Module: SafeDelete.Main
Purpose: The command line: the two hooks, which answer a request on standard input, and the trash
  command.  What they look at is copied from the disk, the library works on the copy, and what it
  changed is written back.
Main exports: main
-/
import SafeDelete.Hook.Filter
import SafeDelete.Hook.Gate
import SafeDelete.Host.Moment
import SafeDelete.Trash.Run
import Std.Time.Zoned

namespace SafeDelete.CommandLine

/-- The variables that matter. -/
def usedVariables : List Text := [
  dryRunVariable, modeVariable, levelVariable, allowlistVariable, commandVariable,
  projectVariable, homeVariable, dataVariable, columnsVariable]

/-- The environment, as far as it matters. -/
def readEnvironment : IO Environment :=
  usedVariables.filterMapM fun name => do
    let value ← IO.getEnv (String.ofList name)
    return value.map fun value => (name, value.toList)

/-- The time of day, to the second. -/
def readTime : IO Text := do
  let now ← Std.Time.PlainDateTime.now
  let date := now.date
  let time := now.time
  return Moment.text ⟨date.year.toInt, date.month.val.toNat, date.day.val.toNat,
    time.hour.val.toNat, time.minute.val.toNat, time.second.val.toNat⟩

/-- A path on the disk. -/
def onDisk (path : PathName) : IO String :=
  return String.ofList path.toText

/-- The entry at a path on the disk, links kept as links; file contents only where wanted. -/
def readEntry (path : PathName) (wanted : Bool) : IO (Option Entry) := do
  let location := (← IO.currentDir) / (← onDisk path)
  try
    match (← location.symlinkMetadata).type with
    | .dir => return some (.directory 0o755)
    | .symlink =>
      if ← location.isDir then return some (.directory 0o755) else return some (.link [])
    | _ =>
      let content ← if wanted then IO.FS.readBinFile location else pure .empty
      return some (.file FileSystem.newFileMode content.toList)
  catch _ => return none

/-- Copy the entry at an absolute path, and the directories on the way to it. -/
def copyEntry (files : FileSystem) (path : PathName) (wanted : Bool) : IO FileSystem := do
  let mut files := files
  for count in List.range path.parts.length do
    let place := path.parts.take (count + 1)
    if let some entry ← readEntry ⟨.slash, place⟩ wanted then
      files := files.insert place entry
  return files

/-- Copy the names in a directory. -/
def copyNames (files : FileSystem) (path : PathName) : IO FileSystem := do
  let mut files ← copyEntry files path false
  let location := (← IO.currentDir) / (← onDisk path)
  if ← location.isDir then
    for found in ← location.readDir do
      files := files.insert (path.parts ++ [found.fileName.toList]) (.file 0 [])
  return files

/-- Three bits of a permission. -/
def accessRight (bits : Nat) : IO.AccessRight :=
  { read := bits / 4 % 2 = 1, write := bits / 2 % 2 = 1, execution := bits % 2 = 1 }

/-- Set the permissions of an entry on the disk. -/
def setMode (path : String) (mode : Nat) : IO Unit :=
  IO.setAccessRights path
    { user := accessRight (mode / 64), group := accessRight (mode / 8), other := accessRight mode }

/-- Write back what was changed, apart from what lies below a place that is moved as a whole. -/
def writeBack (before after : FileSystem) (moved : Option Place) : IO Unit := do
  let isMoved := fun (place : Place) => moved.any fun top => top.isPrefixOf place
  for (place, entry) in after.entries do
    if !isMoved place && before.get? place ≠ some entry then
      let path ← onDisk ⟨.slash, place⟩
      match entry with
      | .directory mode =>
        IO.FS.createDirAll path
        setMode path mode
      | .file mode content =>
        IO.FS.writeBinFile path (ByteArray.mk content.toArray)
        setMode path mode
      | .link _ => pure ()

/-- The directory of this process, as parts of a path. -/
def readWorkingDirectory : IO Place :=
  return (PathName.ofText (← IO.currentDir).toString.toList).parts

/-- The machine: its environment, its time, and a platform told by its system directory. -/
def readHost : IO Host := do
  let darwin ← readEntry (PathName.ofText "/System/Library") false
  let platform := if darwin.isSome then Platform.darwin else Platform.linux
  return ⟨← readEnvironment, platform, ← readTime⟩

/-- Run a hook on the request on standard input. -/
def runHook (hook : Host → Text → FileSystem → HookRun × FileSystem) : IO UInt32 := do
  let host ← readHost
  let here ← readWorkingDirectory
  let project := PathName.absolute here (host.environment.get projectVariable)
  let mut files ← copyEntry ⟨[], here⟩ project false
  for path in [host.configPath? files, host.logPath? files] do
    if let some path := path then
      files ← copyEntry files (PathName.absolute here path.toText) true
  let request ← (← IO.getStdin).readToEnd
  let (outcome, changed) := hook host request.toList files
  writeBack files changed none
  IO.print (String.ofList outcome.out)
  IO.eprint (String.ofList outcome.err)
  return outcome.exitCode.toUInt32

/-- A run that an error ended. -/
def ended (run : TrashRun) (error : TrashError) : TrashRun :=
  ⟨1, run.out, run.err ++ "trash: " ++ error.message ++ "\n"⟩

/-- Move paths to the trash one after the other, until an error ends the run. -/
def trashAll (host : Host) (run : TrashRun) : List Text → IO TrashRun
  | [] => return run
  | path :: rest => do
    let here ← readWorkingDirectory
    let source := PathName.absolute here path
    let mut files ← copyEntry ⟨[], here⟩ source false
    if let .ok trash := Trash.find host.environment host.platform then
      let top := trash.directory
      for directory in [top, top.below "files", top.below "info"] do
        files ← copyNames files (PathName.absolute here directory.toText)
    match moveToTrash host path files with
    | .error error changed =>
      writeBack files changed none
      if error.endsRun then return ended run error
      trashAll host (run.failed path error) rest
    | .ok destination changed =>
      let target := PathName.absolute here destination.toText
      writeBack files changed (some target.parts)
      IO.FS.rename (← onDisk source) (← onDisk target)
      trashAll host (run.moved path) rest

/-- Run the trash command. -/
def runTrashCommand (arguments : List Text) : IO UInt32 := do
  let host ← readHost
  let request := TrashRequest.ofArguments arguments
  let outcome ←
    match request.reply? host.environment.columns with
    | some reply => pure reply
    | none => trashAll host .start request.targets
  IO.print (String.ofList outcome.out)
  IO.eprint (String.ofList outcome.err)
  return outcome.exitCode.toUInt32

end SafeDelete.CommandLine

/-- The first argument names the tool. -/
def main (arguments : List String) : IO UInt32 :=
  match arguments with
  | "filter" :: _ => SafeDelete.CommandLine.runHook SafeDelete.Filter.run
  | "gate" :: _ => SafeDelete.CommandLine.runHook SafeDelete.Gate.run
  | "trash" :: rest => SafeDelete.CommandLine.runTrashCommand (rest.map String.toList)
  | _ => do
    IO.eprintln "usage: safe-delete (filter | gate | trash [path ...])"
    return 2
