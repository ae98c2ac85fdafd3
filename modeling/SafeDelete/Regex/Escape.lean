/-
Module: SafeDelete.Regex.Escape
Purpose: Backslashes and sets of characters in the text of an expression.
Main exports: Regex.Escape, Regex.Reader.escape, Regex.Reader.charSet
-/
import SafeDelete.Regex.Reader
import SafeDelete.Text.CharName

namespace SafeDelete.Regex

/-- What a backslash and the characters after it stand for. -/
inductive Escape where
  /-- The character of a code point. -/
  | code (point : Nat)
  | set (set : CharSet)
  | whole (regex : Regex)

/-- The control characters that have a letter. -/
def controlOf? (c : Char) : Option Nat :=
  (([('a', 7), ('b', 8), ('f', 12), ('n', 10), ('r', 13), ('t', 9), ('v', 11)] :
    List (Char × Nat)).find? fun entry => entry.1 = c).map Prod.snd

/-- The classes that have a letter. -/
def classOf? (c : Char) : Option CharSet :=
  if c = 'd' then some Property.digits
  else if c = 's' then some (.having .whiteSpace)
  else if c = 'w' then some (.having .word)
  else none

/-- The end of a line, in any of its forms. -/
def lineBreak : Regex :=
  .atomic (.choice
    (.sequence (.one .exact (.only '\r')) (.one .exact (.only '\n')))
    (.one .exact (.ofRanges [(0x0A, 0x0D), (0x85, 0x85), (0x2028, 0x2029)])))

/-- Characters up to where the text may be cut between those that readers see. -/
def cluster : Regex :=
  .atomic (.sequence (.repeated .reluctant 1 none (.one .exact .all)) (.anchor .clusterEdge))

/-- How many hexadecimal digits follow a letter. -/
def hexWidth? (c : Char) : Option Nat :=
  if c = 'x' then some 2 else if c = 'u' then some 4 else if c = 'U' then some 8 else none

/-- An octal digit. -/
def isOctal (c : Char) : Bool :=
  '0' ≤ c && c ≤ '7'

/-- The value of octal digits. -/
def octalValue (digits : Text) : Nat :=
  digits.foldl (fun value c => 8 * value + (c.toNat - '0'.toNat)) 0

/-- A code point that is not too large. -/
def codePoint? (n : Nat) : Option Nat :=
  if n < 0x110000 then some n else none

namespace Reader

/-- The next character, if it is of a kind; it is taken then. -/
def nextIf? (kind : Char → Bool) : Reader (Option Char) := do
  let before ← get
  match ← next? with
  | some c =>
    if kind c then return some c
    set before
    return none
  | none =>
    set before
    return none

/-- A number after a backslash, in octal: three digits at most. -/
def octal (first : Char) : Reader Escape := do
  if !isOctal first then refuse
  match ← nextIf? isOctal with
  | none => return .code (octalValue [first])
  | some second =>
    let third ← nextIf? isOctal
    return .code (octalValue (first :: second :: third.toList))

/-- A number after a backslash outside of a set: three octal digits, or a group. -/
def number (first : Char) : Reader Escape := do
  match ← nextIf? Char.isDigit with
  | none => return .whole (← reference (.number (numeralValue [first])))
  | some second =>
    if isOctal first && isOctal second then
      match ← nextIf? isOctal with
      | none => pure ()
      | some third =>
        let whole := (← get).whole
        let limit := if whole.contains .ascii || whole.contains .locale then 0x100 else 0x200
        return .code (octalValue [first, second, third] % limit)
    return .whole (← reference (.number (numeralValue [first, second])))

/-- A group named after a backslash; where that is not possible the letter stands for itself. -/
def namedReference : Reader Escape := do
  let before ← get
  try
    expect "<"
    let name ← groupName true
    expect ">"
    return .whole (← reference name)
  catch _ =>
    set before
    return .code 'g'.toNat

/-- A property's name and value, or a value alone. -/
def propertyName : Reader (Option Text × Text) := do
  let isPart := fun (c : Char) => c.isAlphanum || (" &_-." : Text).contains c
  let name ← takeWhile isPart
  let before ← get
  match ← nextIf? fun c => c = ':' || c = '=' with
  | none => return (none, name)
  | some _ =>
    let value := Text.trim (← takeWhile fun c => isPart c || c = '/')
    if value.isEmpty then
      set before
      return (none, name)
    return (some name, value)

/-- A set, or what is outside of it. -/
def sided (wanted : Bool) (set : CharSet) : CharSet :=
  if wanted then set else .outside set

/-- A letter that asks for a property; without one it stands for itself. -/
def property (c : Char) : Reader Escape := do
  let before ← get
  let wanted := c = 'p'
  match ← next? with
  | some '\x7b' =>
    let negated ← accept "^"
    let (property, value) ← propertyName
    if ← accept ['\x7d'] then
      let set ← underWhole (← found (Property.find? property value))
      return .set (sided (wanted != negated) set)
  | some d =>
    if ("CLMNPSZ" : Text).contains d then
      return .set (sided wanted (← underWhole (← found (Property.find? none [d]))))
  | none => pure ()
  set before
  return .code c.toNat

/-- A letter that asks for the name of a character, in which blanks count; without one it stands for
itself. -/
def namedCharacter : Reader Escape := do
  let before ← get
  if ← accept ['\x7b'] then
    modify fun cursor => { cursor with skips := false }
    let name ← takeWhile fun c => c.isAlphanum || c = ' ' || c = '-'
    modify fun cursor => { cursor with skips := before.skips }
    if ← accept ['\x7d'] then return .code (← found (characterNamed? name)).toNat
  set before
  return .code 'N'.toNat

/-- Which places words begin and end at. -/
def wordRule : Reader WordRule := do
  if ← has .segments then return .segments
  if ← has .ascii then return .asciiOnly
  if ← has .unicode then return .everyScript
  let whole := (← get).whole
  return if whole.contains .ascii || whole.contains .locale then .asciiOnly else .everyScript

/-- A letter that asks something of a place. -/
def placeOf? (c : Char) : Reader (Option Regex) := do
  let rule ← wordRule
  let backward := (← get).whole.contains .backward
  match c with
  | 'A' => return some (.anchor .start)
  | 'G' => return some (.anchor (if backward then .finish else .start))
  | 'K' => return some (.anchor .anywhere)
  | 'M' => return some (.anchor (.wordEnd rule))
  | 'Z' => return some (.anchor .finish)
  | 'B' => return some (.anchor (.noWordEdge rule))
  | 'b' => return some (.anchor (.wordEdge rule))
  | 'm' => return some (.anchor (.wordStart rule))
  | _ => return none

/-- An escape by a letter that means the same inside of a set and outside. -/
def letter (c : Char) : Reader Escape := do
  if c = 'h' then return .set (← underFlags Property.lineBlanks)
  match classOf? c, classOf? c.toLower, controlOf? c with
  | some set, _, _ => return .set (← underFlags set)
  | none, some set, _ => return .set (.outside (← underFlags set))
  | none, none, some point => return .code point
  | none, none, none => refuse

/-- What comes after a backslash. -/
def escape (inSet : Bool) : Reader Escape := do
  let c ← found (← nextWritten?)
  match hexWidth? c with
  | some width => return .code (← found (codePoint? (← hexadecimal width 0)))
  | none => pure ()
  if c = 'N' then return ← namedCharacter
  if c = 'p' || c = 'P' then return ← property c
  if c.isDigit then
    if inSet || c = '0' then return ← octal c
    return ← number c
  if !c.isAlpha then return .code c.toNat
  if inSet then return ← letter c
  if c = 'g' then return ← namedReference
  if c = 'R' then return .whole lineBreak
  if c = 'X' then return .whole cluster
  match ← placeOf? c with
  | some place => return .whole place
  | none =>
    match ← letter c with
    | .set set => return .whole (.one .exact set)
    | escape => return escape

/-! ## Sets -/

/-- A class in brackets and colons, if one comes next. -/
def posixClass? : Reader (Option CharSet) := do
  let before ← get
  if !(← accept "[:") then return none
  let negated ← accept "^"
  let (property, value) ← propertyName
  if ← accept ":]" then
    let set ← underWhole (← found (Property.posix? property value))
    return some (sided (!negated) set)
  set before
  return none

/-- The operators between sets, in the newer dialect. -/
def setOperators : List Text := ["||", "~~", "&&", "--"]

/-- A set operator comes next. -/
def operatorNext : Reader Bool := do
  let rest ← rest
  return setOperators.any fun mark => Text.startsWith mark rest

/-- The sets after a first one. -/
def setChainFrom (mark : Text) (join : CharSet → CharSet → CharSet) (part : Reader CharSet) :
    (fuel : Nat) → CharSet → Reader CharSet
  | 0, first => return first
  | fuel + 1, first => do
    if ← accept mark then setChainFrom mark join part fuel (join first (← part))
    else return first

/-- Sets with an operator between two neighbours, which binds to the left. -/
def setChain (mark : Text) (join : CharSet → CharSet → CharSet) (part : Reader CharSet)
    (fuel : Nat) : Reader CharSet := do
  let first ← part
  setChainFrom mark join part fuel first

mutual

/-- A member of a set: a set of its own, or what may be the first of a range. -/
def setItem : (fuel : Nat) → Reader (CharSet ⊕ Nat)
  | 0 => refuse
  | fuel + 1 => do
    if ← accept "\\" then
      match ← escape true with
      | .code point => return .inr point
      | .set set => return .inl set
      | .whole _ => refuse
    match ← posixClass? with
    | some set => return .inl set
    | none => pure ()
    if ← has .newer then
      if ← accept "[" then
        let negated ← accept "^"
        let set ← setUnion fuel
        expect "]"
        return .inl (sided (!negated) set)
    return .inr (← found (← next?)).toNat

/-- A range from one character to another, or a single member. -/
def setMember : (fuel : Nat) → Reader CharSet
  | 0 => refuse
  | fuel + 1 => do
    match ← setItem fuel with
    | .inl set => return set
    | .inr first =>
      let single := CharSet.between first first
      if (← has .newer) && Text.startsWith "--" (← rest) then return single
      if !(← accept "-") then return single
      if Text.startsWith "]" (← rest) then return .union single (.only '-')
      match ← setItem fuel with
      | .inl set => return .unions single [.only '-', set]
      | .inr last => if last < first then refuse else return .between first last

/-- Members one after the other, at least one, up to the end of the set or an operator. -/
def setMembers : (fuel : Nat) → Reader CharSet
  | 0 => refuse
  | fuel + 1 => do
    let first ← setMember fuel
    if Text.startsWith "]" (← rest) then return first
    if (← has .newer) && (← operatorNext) then return first
    return .union first (← setMembers fuel)

/-- Sets of which each is taken away from the first. -/
def setDifference : (fuel : Nat) → Reader CharSet
  | 0 => refuse
  | fuel + 1 => do setChain "--" .without (setMembers fuel) fuel

/-- The characters that several sets have in common. -/
def setIntersection : (fuel : Nat) → Reader CharSet
  | 0 => refuse
  | fuel + 1 => do setChain "&&" .common (setDifference fuel) fuel

/-- The characters in an odd number of sets. -/
def setDisjunction : (fuel : Nat) → Reader CharSet
  | 0 => refuse
  | fuel + 1 => do setChain "~~" .either (setIntersection fuel) fuel

/-- The characters in some of several sets. -/
def setUnion : (fuel : Nat) → Reader CharSet
  | 0 => refuse
  | fuel + 1 => do setChain "||" .union (setDisjunction fuel) fuel

end

/-- A set, whose opening bracket was taken.  Blanks count in it. -/
def charSet : Reader CharSet := do
  let before ← get
  set { before with skips := false }
  let negated ← accept "^"
  let fuel := 8 * before.rest.length + 8
  let set ← if ← has .newer then setUnion fuel else setMembers fuel
  expect "]"
  modify fun cursor => { cursor with skips := before.skips }
  return sided (!negated) set

end Reader

end SafeDelete.Regex
