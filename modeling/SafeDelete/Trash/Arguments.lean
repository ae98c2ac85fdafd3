/-
Module: SafeDelete.Trash.Arguments
Purpose: What the arguments of the trash command ask for.
Main exports: TrashRequest, TrashRequest.ofArguments, Switch
-/
import SafeDelete.Text.Basic
import SafeDelete.Text.Digit

namespace SafeDelete

/-- The switches of the trash command. -/
inductive Switch where
  | help
  | version
  deriving Repr, DecidableEq

namespace Switch

/-- The letter of a switch. -/
def letter : Switch → Char
  | .help => 'h'
  | .version => 'v'

/-- The word of a switch. -/
def word : Switch → Text
  | .help => "help"
  | .version => "version"

/-- All switches. -/
def all : List Switch :=
  [.help, .version]

/-- How a switch is written with a single dash. -/
def short (switch : Switch) : Text :=
  ['-', switch.letter]

/-- How a switch is written with two dashes. -/
def long (switch : Switch) : Text :=
  "--" ++ switch.word

/-- Both spellings of a switch. -/
def name (switch : Switch) : Text :=
  switch.short ++ "/" ++ switch.long

/-- The switch of a letter. -/
def ofLetter? (c : Char) : Option Switch :=
  all.find? fun switch => switch.letter = c

/-- The switch that a text spells. -/
def spelled? (text : Text) : Option Switch :=
  all.find? fun switch => text = switch.short ∨ text = switch.long

end Switch

/-- What one argument is. -/
inductive Argument where
  /-- A path. -/
  | path
  /-- An option that is not known, and so a path after all. -/
  | unknown
  /-- A switch. -/
  | switch (found : Switch)
  /-- A switch with an argument, which none takes. -/
  | refused (found : Switch) (argument : Text)
  deriving Repr, DecidableEq

namespace Argument

/-- More letters behind a first switch.  Each has to be a switch; the first one counts. -/
def cluster (first : Switch) : (last : Switch) → Text → Argument
  | _, [] => .switch first
  | last, c :: rest =>
    match Switch.ofLetter? c with
    | some next => cluster first next rest
    | none => .refused last (c :: rest)

/-- A switch with something attached to it. -/
def attached (found : Switch) (isLong : Bool) (argument : Text) : Argument :=
  if isLong || argument.isEmpty then .refused found argument
  else cluster found found argument

/-- One line feed at the end is no part of a number. -/
def withoutLineFeed (text : Text) : Text :=
  if Text.endsWith "\n" text then text.dropLast else text

/-- Digits, or a point with digits behind it and perhaps before it. -/
def isUnsignedNumber (text : Text) : Bool :=
  match text.dropWhile isAnyDigit with
  | [] => !text.isEmpty
  | '.' :: fraction => !fraction.isEmpty && fraction.all isAnyDigit
  | _ => false

/-- A dash before something that looks like a number. -/
def isNegativeNumber : Text → Bool
  | '-' :: rest => isUnsignedNumber (withoutLineFeed rest)
  | _ => false

/-- A word that starts with a dash and spells no switch: a path if it looks like a number or holds a
space. -/
def ofUnknown (text : Text) : Argument :=
  if isNegativeNumber text || text.contains ' ' then .path else .unknown

/-- A word that starts with a dash and spells no switch, but may be a cluster of letters. -/
def ofLetters (text : Text) : Argument :=
  match text with
  | '-' :: c :: rest =>
    match Switch.ofLetter? c with
    | some found => attached found false rest
    | none => ofUnknown text
  | _ => .path

/-- What an argument is before any bare double dash. -/
def ofText (text : Text) : Argument :=
  if !Text.startsWith "-" text then .path
  else
    match Switch.spelled? text with
    | some found => .switch found
    | none =>
      let before := text.takeWhile (· ≠ '=')
      match text.dropWhile (· ≠ '='), Switch.spelled? before with
      | _ :: argument, some found => attached found (Text.startsWith "--" before) argument
      | _, _ => ofLetters text

end Argument

/-- What the trash command is to do. -/
inductive TrashRequest where
  | help
  | version
  /-- A switch was given an argument. -/
  | refused (switch : Switch) (argument : Text)
  | paths (paths : List Text)
  deriving Repr, DecidableEq

namespace TrashRequest

/-- The word after which every argument is a path. -/
def terminator : Text := "--"

/-- The request of a switch. -/
def ofSwitch : Switch → TrashRequest
  | .help => .help
  | .version => .version

/-- The arguments as far as they are sorted: the first run of paths, and everything else. -/
structure Sorted where
  /-- The first run of paths, once it is complete. -/
  chosen : Option (List Text)
  /-- The run of paths that is being read. -/
  run : List Text
  /-- Unknown options, and the paths after the first run. -/
  others : List Text
  deriving Repr, DecidableEq

namespace Sorted

/-- End the run of paths; the first one that is not empty is chosen, less a bare double dash. -/
def endRun (sorted : Sorted) : Sorted :=
  if sorted.run.isEmpty then sorted
  else
    match sorted.chosen with
    | none => ⟨some (sorted.run.erase terminator), [], sorted.others⟩
    | some chosen => ⟨some chosen, [], sorted.others ++ sorted.run⟩

/-- One more path. -/
def addPath (sorted : Sorted) (path : Text) : Sorted :=
  { sorted with run := sorted.run ++ [path] }

/-- An unknown option. -/
def addUnknown (sorted : Sorted) (word : Text) : Sorted :=
  let sorted := sorted.endRun
  { sorted with others := sorted.others ++ [word] }

/-- All paths: unknown options and late paths first, then the first run. -/
def paths (sorted : Sorted) : List Text :=
  let sorted := sorted.endRun
  sorted.others ++ sorted.chosen.getD []

end Sorted

/-- Sort arguments up to the first switch. -/
def sort (sorted : Sorted) : List Text → TrashRequest
  | [] => .paths sorted.paths
  | word :: rest =>
    if word = terminator then .paths ({ sorted with run := sorted.run ++ word :: rest }).paths
    else
      match Argument.ofText word with
      | .path => sort (sorted.addPath word) rest
      | .unknown => sort (sorted.addUnknown word) rest
      | .switch found => ofSwitch found
      | .refused found argument => .refused found argument

/-- What arguments ask for.  A switch ends the matter where it stands; without one, every argument
is a path. -/
def ofArguments (arguments : List Text) : TrashRequest :=
  sort ⟨none, [], []⟩ arguments

end TrashRequest

end SafeDelete
