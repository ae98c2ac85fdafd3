/-
Module: SafeDelete.Trash.Help
Purpose: What the trash command says about itself.
Main exports: trashUsage, trashHelp, trashVersion
-/
import SafeDelete.Text.Fill

namespace SafeDelete

/-! ## Usage -/

/-- What stands before a usage. -/
def usageLead : Text := "usage: "

/-- The name of the trash command. -/
def trashName : Text := "trash"

/-- How its switches are shown. -/
def shownSwitches : List Text := ["[-h]", "[-v]"]

/-- How its operands are shown. -/
def shownOperands : List Text := ["[path ...]"]

/-- The columns of a text on a terminal; two stay free. -/
def textWidth (columns : Nat) : Nat :=
  columns - 2

/-- The usage on lines of a width: on one line if it fits.  Else the operands begin a line below the
switches, which follow the name unless that takes more than three quarters of the width. -/
def usageText (width : Nat) : Text :=
  let whole := Text.unwords ([trashName] ++ shownSwitches ++ shownOperands)
  let named := usageLead.length + trashName.length
  if usageLead.length + whole.length ≤ width then whole
  else if 4 * named ≤ 3 * width then
    let indent := named + 1
    Fill.indented indent <|
      Fill.lines width indent usageLead.length (trashName :: shownSwitches) ++
        Fill.lines width indent indent shownOperands
  else
    let indent := usageLead.length
    let fill := Fill.lines width indent indent
    let together := fill (shownSwitches ++ shownOperands)
    Fill.indented indent <|
      trashName ::
        if together.length ≤ 1 then together else fill shownSwitches ++ fill shownOperands

/-- How the trash command is called, for a terminal of so many columns. -/
def trashUsage (columns : Nat) : Text :=
  usageLead ++ usageText (textWidth columns) ++ "\n"

/-! ## Help -/

/-- An argument and what it is for. -/
structure HelpEntry where
  name : Text
  purpose : List Text
  deriving Repr, DecidableEq

namespace HelpEntry

/-- Columns before a name. -/
def nameIndent : Nat := 2

/-- The paths. -/
def path : HelpEntry :=
  ⟨"path", ["files", "or", "folders", "to", "trash"]⟩

/-- The switch that asks for help. -/
def help : HelpEntry :=
  ⟨"-h, --help", ["show", "this", "help", "message", "and", "exit"]⟩

/-- The switch that asks for the version. -/
def version : HelpEntry :=
  ⟨"-v, --version", ["show", "program's", "version", "number", "and", "exit"]⟩

/-- Where purposes begin: behind the longest name, but not too far to the right. -/
def purposeIndent (width : Nat) : Nat :=
  min (version.name.length + 2 * nameIndent) (min 24 (max (width - 20) (2 * nameIndent)))

/-- The columns of a purpose, eleven at least. -/
def purposeWidth (width : Nat) : Nat :=
  max (width - purposeIndent width) 11

/-- An entry: its purpose stands behind its name, or below it where there is no room. -/
def text (width : Nat) (entry : HelpEntry) : Text :=
  let indent := purposeIndent width
  let start := Fill.spaces nameIndent ++ entry.name
  let lead :=
    if start.length + nameIndent ≤ indent then start ++ Fill.spaces (indent - start.length)
    else start ++ "\n" ++ Fill.spaces indent
  lead ++ Fill.indented indent (Fill.lines (purposeWidth width) 0 0 entry.purpose) ++ "\n"

end HelpEntry

/-- What the trash command does, and its arguments, for a terminal of so many columns. -/
def trashHelp (columns : Nat) : Text :=
  let entry := HelpEntry.text (textWidth columns)
  trashUsage columns ++
    "\nMove files and folders to the system Trash, allowing recovery if needed.\n" ++
    "\npositional arguments:\n" ++ entry .path ++
    "\noptions:\n" ++ entry .help ++ entry .version ++
    "\nexamples:\n" ++
    "    trash file.txt           Move a single file to trash\n" ++
    "    trash folder/            Move a folder to trash\n" ++
    "    trash a.txt b.txt c/     Move multiple items to trash\n" ++
    "    trash -- -weird          Trash a file whose name starts with a dash\n"

/-- The version of the trash command. -/
def trashVersion : Text :=
  "trash v1.0.0\n"

end SafeDelete
