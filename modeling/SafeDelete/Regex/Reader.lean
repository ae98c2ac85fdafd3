/-
Module: SafeDelete.Regex.Reader
Purpose: Reading the text of an expression piece by piece.
Main exports: Regex.Stop, Regex.Cursor, Regex.Reader
-/
import SafeDelete.Regex.Basic
import SafeDelete.Regex.Flag
import SafeDelete.Regex.Property
import SafeDelete.Text.Digit
import SafeDelete.Text.Numeral

namespace SafeDelete.Regex

/-- Why a reading stops. -/
inductive Stop where
  /-- The text is no expression. -/
  | invalid
  /-- What was looked for is not there; the text may be something else. -/
  | absent
  /-- Flags were set for the whole expression, which has to be read again under them. -/
  | flagged (flags : List Flag)
  deriving Repr, DecidableEq

/-- A reading: the text that is left, and what is known so far. -/
structure Cursor where
  rest : Text
  /-- The flags of the whole expression. -/
  whole : List Flag
  /-- The flags of what follows. -/
  flags : List Flag
  /-- Blanks and comments are skipped. -/
  skips : Bool
  /-- How many groups were opened. -/
  count : Nat
  names : List (Text × Nat)
  /-- The groups that are not closed yet. -/
  inside : List Nat
  /-- The groups that were opened, each as often as it was. -/
  opened : List Nat
  deriving Repr, DecidableEq

/-- A step of a reading. -/
abbrev Reader := StateT Cursor (Except Stop)

namespace Reader

/-- The text is no expression. -/
def refuse : Reader α :=
  throw .invalid

/-- The text may be something else. -/
def absent : Reader α :=
  throw .absent

/-- What a partial step found, which must be something. -/
def found : Option α → Reader α
  | some value => pure value
  | none => refuse

/-! ## Characters -/

/-- What comes after blanks and comments; a comment ends with its line. -/
def afterBlanks (inComment : Bool) : Text → Text
  | [] => []
  | c :: rest =>
    if inComment then afterBlanks (c != '\n') rest
    else if isBlank c then afterBlanks false rest
    else if c = '#' then afterBlanks true rest
    else c :: rest

/-- The text that is left as it counts. -/
def rest : Reader Text := do
  let cursor ← get
  return if cursor.skips then afterBlanks false cursor.rest else cursor.rest

/-- Go on with another text. -/
def goOn (rest : Text) : Reader Unit :=
  modify fun cursor => { cursor with rest }

/-- The next character as it is written, which is taken. -/
def nextWritten? : Reader (Option Char) := do
  match (← get).rest with
  | [] => return none
  | c :: after =>
    goOn after
    return some c

/-- The next character that counts, which is taken. -/
def next? : Reader (Option Char) := do
  match ← rest with
  | [] =>
    goOn []
    return none
  | c :: after =>
    goOn after
    return some c

/-- Take the characters of a mark one by one, if they come next. -/
def acceptAll : Text → Reader Bool
  | [] => return true
  | c :: mark => do
    if (← next?) = some c then acceptAll mark else return false

/-- Take a mark, if it comes next. -/
def accept (mark : Text) : Reader Bool := do
  let before ← get
  if ← acceptAll mark then return true
  set before
  return false

/-- Take a mark, which has to come next. -/
def expect (mark : Text) : Reader Unit := do
  if !(← accept mark) then refuse

/-- Take characters as long as they are of a kind; there are no more of them than the fuel. -/
def takeUpTo (kind : Char → Bool) : (fuel : Nat) → Reader Text
  | 0 => return []
  | fuel + 1 => do
    let rest ← rest
    goOn rest
    match rest with
    | c :: after =>
      if kind c then
        goOn after
        return c :: (← takeUpTo kind fuel)
      else return []
    | [] => return []

/-- Take characters as long as they are of a kind. -/
def takeWhile (kind : Char → Bool) : Reader Text := do
  takeUpTo kind (← get).rest.length

/-- Take decimal digits. -/
def digits : Reader Text :=
  takeWhile Char.isDigit

/-- Take so many hexadecimal digits, and tell their value. -/
def hexadecimal : (width : Nat) → (value : Nat) → Reader Nat
  | 0, value => return value
  | width + 1, value => do
    let c ← found (← next?)
    hexadecimal width (16 * value + (← found (hexDigitValue? c)))

/-! ## Flags -/

/-- A flag is on. -/
def has (flag : Flag) : Reader Bool :=
  return (← get).flags.contains flag

/-- Go on under other flags. -/
def setFlags (flags : List Flag) : Reader Unit :=
  modify fun cursor => { cursor with flags, skips := flags.contains .verbose }

/-- A part after which the flags are what they were before. -/
def inScope (part : Reader α) : Reader α := do
  let before := (← get).flags
  let value ← part
  setFlags before
  return value

/-- Which characters of an expression count as one and the same. -/
def caseRule : Reader CaseRule := do
  let cursor ← get
  if !cursor.flags.contains .ignoreCase then return .exact
  if cursor.whole.contains .ascii || cursor.whole.contains .locale then return .ascii
  if cursor.flags.contains .fullCase && !cursor.flags.contains .ascii then return .full
  return .simple

/-- The characters of a set that count under the flags of the whole. -/
def underWhole (set : CharSet) : Reader CharSet := do
  let whole := (← get).whole
  return if whole.contains .ascii || whole.contains .locale then set.inAscii else set

/-- The characters of a set that count under the flags of what follows. -/
def underFlags (set : CharSet) : Reader CharSet := do
  if ← has .ascii then return set.inAscii
  if ← has .unicode then return set
  underWhole set

/-! ## Groups -/

/-- Open a group, which may have a name.  Groups of one name are one group. -/
def openGroup (name : Option Text) : Reader Nat := do
  let cursor ← get
  let known := name.bind fun name => (cursor.names.find? fun entry => entry.1 = name).map Prod.snd
  match known with
  | some number =>
    let opened :=
      if cursor.inside.contains number then cursor.opened else number :: cursor.opened
    set { cursor with opened, inside := number :: cursor.inside }
    return number
  | none =>
    let isFree := fun (number : Nat) =>
      name.isNone || cursor.names.all fun entry => entry.2 != number
    let numbers := (List.range (cursor.names.length + 1)).map (cursor.count + 1 + ·)
    let number := (numbers.find? isFree).getD (cursor.count + 1)
    let names := (name.map fun name => (name, number)).toList ++ cursor.names
    set { cursor with
      count := number, names, inside := number :: cursor.inside,
      opened := number :: cursor.opened }
    return number

/-- Close the group that was opened last. -/
def closeGroup : Reader Unit :=
  modify fun cursor => { cursor with inside := cursor.inside.tail }

/-- The value of digits of any script. -/
def anyNumeralValue (digits : Text) : Nat :=
  digits.foldl (fun value c => 10 * value + (anyDigitValue? c).getD 0) 0

/-- A name may be given to a group. -/
def isIdentifier : Text → Bool
  | [] => false
  | c :: rest =>
    (c = '_' || Property.stableStarts.admits .exact c) &&
      rest.all (CharSet.admits .exact (.without Property.nameParts Property.unstable))

/-- A name, or a number where that may stand for a group. -/
def groupName (mayBeNumber : Bool) : Reader GroupName := do
  let name ← takeWhile fun c => c != ')' && c != '>'
  if !name.isEmpty && name.all isAnyDigit then
    let number := anyNumeralValue name
    if !mayBeNumber || number = 0 then refuse
    return .number number
  if !isIdentifier name then refuse
  return .name name

/-- A name for a group. -/
def newName : Reader Text := do
  match ← groupName false with
  | .name name => return name
  | .number _ => refuse

/-- The text of a group once more.  In the older dialect this cannot stand inside of it. -/
def reference (name : GroupName) : Reader Regex := do
  let cursor ← get
  let number :=
    match name with
    | .number number => some number
    | .name name => (cursor.names.find? fun (entry : Text × Nat) => entry.1 = name).map Prod.snd
  if !cursor.flags.contains .newer && number.any cursor.inside.contains then refuse
  return .again (← caseRule) name

end Reader

end SafeDelete.Regex
