/-
Module: SafeDelete.Regex.Parser
Purpose: Regular expressions read from their text.
Main exports: Regex.Clash, Regex.Program.ofText?
-/
import SafeDelete.Regex.Quantifier

namespace SafeDelete.Regex

namespace Reader

/-! ## Flags -/

/-- Flags by their letters, as long as there are any. -/
def flagLetters : (fuel : Nat) → Reader (List Flag)
  | 0 => return []
  | fuel + 1 => do
    let before ← get
    match ← next? with
    | none =>
      set before
      return []
    | some c =>
      let letters ← if c = 'V' then pure (c :: (← next?).toList) else pure [c]
      match Flag.ofLetters? letters with
      | none =>
        set before
        return []
      | some flag => return flag :: (← flagLetters fuel)

/-- The flags to set and those to clear. -/
def flagChange : Reader (List Flag × List Flag) := do
  let fuel := (← rest).length
  let on ← flagLetters fuel
  if !(← accept "-") then return (on, [])
  let off ← flagLetters fuel
  if off.isEmpty || off.any Flag.isGlobal || off.any on.contains then refuse
  return (on, off)

/-- Flags of the whole expression are on before it is read. -/
def demand (flags : List Flag) : Reader Unit := do
  let whole := (← get).whole
  let missing := flags.filter fun flag => !whole.contains flag
  if !missing.isEmpty then throw (.flagged (whole ++ missing))

/-- Set and clear flags for a part. -/
def changeFlags (on off : List Flag) : Reader Unit := do
  let flags := (← get).flags
  let kept := if on.any Flag.isEncoding then flags.filter (!Flag.isEncoding ·) else flags
  setFlags ((kept ++ on).filter (!off.contains ·))

/-- Set and clear flags for what follows; in the older dialect flags are those of the whole. -/
def changeFollowing (on off : List Flag) : Reader Unit := do
  if ← has .newer then
    setFlags (((← get).flags ++ on).filter (!off.contains ·))
  else
    if !off.isEmpty then refuse
    demand on

/-! ## Expressions -/

/-- The parts that have a name in parentheses and stars. -/
def verb? (word : Text) : Option Regex :=
  if word = "FAIL" || word = "F" then some .never
  else if word = "PRUNE" || word = "SKIP" then some .settle
  else none

/-- A part with errors; those of a group belong to what is inside of it. -/
def withTolerance (tolerance : Tolerance) : Regex → Regex
  | .group number body => .group number (.tolerant tolerance body)
  | part => .tolerant tolerance part

/-- A part a number of times.  Once is no repetition, and neither is nothing any number of times. -/
def withRepetition (appetite : Appetite) (bounds : Bounds) (body : Regex) : Regex :=
  if body.isEmpty || bounds = ⟨1, some 1⟩ then body
  else .repeated appetite bounds.least bounds.most body

/-- What comes before or after is of a form.  That it is of none is always so. -/
def looking (behind wanted : Bool) (body : Regex) : Regex :=
  if wanted && body.isEmpty then body else .look behind wanted body

/-- A number of a group that follows, or comes before, by how far it is away. -/
def relativeNumber (forward : Bool) : Reader Nat := do
  let distance := numeralValue (← digits)
  let count := (← get).count
  let number := if forward then count + distance else count + 1 - distance
  if number = 0 then refuse
  return number

mutual

/-- Alternatives, up to a closing parenthesis or the end. -/
def choices : (fuel : Nat) → Reader Regex
  | 0 => refuse
  | fuel + 1 => do
    let first ← parts fuel [] none
    if ← accept "|" then return .choice first (← choices fuel) else return first

/-- Alternatives whose groups have the same numbers; the highest of them is the last. -/
def sharedChoices : (fuel first last : Nat) → Reader Regex
  | 0, _, _ => refuse
  | fuel + 1, first, last => do
    modify fun cursor => { cursor with count := first }
    let part ← parts fuel [] none
    let last := max last (← get).count
    if ← accept "|" then return .choice part (← sharedChoices fuel first last)
    modify fun cursor => { cursor with count := last }
    return part

/-- The parts of an alternative, the last of those before first.  The last one stays apart as long
as it may be repeated. -/
def parts : (fuel : Nat) → (done : List Regex) → (last : Option Regex) → Reader Regex
  | 0, _, _ => refuse
  | fuel + 1, done, last => do
    let whole := last.toList ++ done
    let before ← get
    match ← next? with
    | none =>
      set before
      return .ofParts whole.reverse
    | some c =>
      if c = ')' || c = '|' then
        set before
        return .ofParts whole.reverse
      if c = '(' then
        match ← parenthesis fuel with
        | none => parts fuel done last
        | some part => parts fuel whole (some part)
      else if c = '?' || c = '*' || c = '+' || c = '\x7b' then
        match ← quantifier c with
        | some bounds =>
          let body ← found last
          let appetite ← appetite
          parts fuel (withRepetition appetite bounds body :: done) none
        | none =>
          match ← tolerance? with
          | some tolerance =>
            let body ← found last
            parts fuel (withTolerance tolerance body :: done) none
          | none =>
            let part ← plain c
            parts fuel whole (some part)
      else
        let part ←
          if c = '\\' then escaped
          else if c = '[' then
            let set ← charSet
            pure (.one (← caseRule) set)
          else plain c
        parts fuel whole (some part)

/-- A part in parentheses, whose opening one was taken.  Comments and flags are no parts. -/
def parenthesis : (fuel : Nat) → Reader (Option Regex)
  | 0 => refuse
  | fuel + 1 => do
    let before ← get
    match ← nextWritten? with
    | some '?' => special fuel
    | some '*' =>
      let word ← takeWhile fun c => c != ')' && c != '>'
      if word.head?.any isAlphabetic then
        let part ← found (verb? word)
        expect ")"
        return some part
      set before
      return some (← numbered fuel none)
    | _ =>
      set before
      return some (← numbered fuel none)

/-- A part in parentheses, whose opening one was taken with a question mark. -/
def special : (fuel : Nat) → Reader (Option Regex)
  | 0 => refuse
  | fuel + 1 => do
    let before ← get
    match ← nextWritten? with
    | some '<' =>
      if ← accept "=" then return some (looking true true (← closed fuel))
      if ← accept "!" then return some (looking true false (← closed fuel))
      let name ← newName
      return some (← named fuel name)
    | some '=' => return some (looking false true (← closed fuel))
    | some '!' => return some (looking false false (← closed fuel))
    | some 'P' =>
      if ← accept "<" then
        let name ← newName
        return some (← named fuel name)
      if ← accept "=" then
        let name ← groupName true
        expect ")"
        return some (← reference name)
      if !(← accept ">") then expect "&"
      let name ← groupName false
      expect ")"
      return some (.call name)
    | some '#' =>
      modify fun cursor => { cursor with rest := cursor.rest.dropWhile (· ≠ ')') }
      if (← nextWritten?).isNone then refuse
      return none
    | some '(' => return some (← conditional fuel)
    | some '>' => return some (.atomic (← closed fuel))
    | some '|' =>
      let count := (← get).count
      let part ← sharedChoices fuel count count
      expect ")"
      return some part
    | some 'R' =>
      expect ")"
      return some (.call (.number 0))
    | some '&' =>
      let name ← groupName false
      expect ")"
      return some (.call name)
    | some c =>
      if c.isDigit then
        let more ← digits
        expect ")"
        return some (.call (.number (numeralValue (c :: more))))
      let next := (← rest).head?
      if (c = '+' || c = '-') && next.any Char.isDigit then
        let number ← relativeNumber (c = '+')
        expect ")"
        return some (.call (.number number))
      set before
      flagged fuel
    | none => refuse

/-- Flags, for a part after a colon or for what follows. -/
def flagged : (fuel : Nat) → Reader (Option Regex)
  | 0 => refuse
  | fuel + 1 => do
    let (on, off) ← flagChange
    demand (on.filter Flag.isGlobal)
    let on := on.filter (!Flag.isGlobal ·)
    if ← accept ":" then
      return some (← inScope do
        changeFlags on off
        let part ← choices fuel
        expect ")"
        return part)
    expect ")"
    changeFollowing on off
    return none

/-- An expression up to its closing parenthesis. -/
def closed : (fuel : Nat) → Reader Regex
  | 0 => refuse
  | fuel + 1 => inScope do
    let body ← choices fuel
    expect ")"
    return body

/-- A group up to its closing parenthesis. -/
def numbered : (fuel : Nat) → Option Text → Reader Regex
  | 0, _ => refuse
  | fuel + 1, name => do
    let number ← openGroup name
    let body ← closed fuel
    closeGroup
    return .group number body

/-- A group whose name was taken. -/
def named : (fuel : Nat) → Text → Reader Regex
  | 0, _ => refuse
  | fuel + 1, name => do
    expect ">"
    numbered fuel (some name)

/-- A choice by whether a group has a text, or by what comes next or before. -/
def conditional : (fuel : Nat) → Reader Regex
  | 0 => refuse
  | fuel + 1 => do
    if ← accept "?" then
      let behind ← accept "<"
      let wanted ← accept "="
      if !wanted then expect "!"
      let body ← closed fuel
      let (yes, no) ← branches fuel
      return .whether behind wanted body yes no
    inScope do
      let name ← groupName true
      expect ")"
      let (yes, no) ← branches fuel
      return if yes.isEmpty && no.isEmpty then .empty else .given name yes no

/-- The two parts of a choice up to its closing parenthesis; the second may be left out. -/
def branches : (fuel : Nat) → Reader (Regex × Regex)
  | 0 => refuse
  | fuel + 1 => do
    let yes ← parts fuel [] none
    let no ← if ← accept "|" then parts fuel [] none else pure .empty
    expect ")"
    return (yes, no)

end

end Reader

/-! ## Whole texts -/

/-- Flags that do not go together. -/
inductive Clash where
  | dialects
  | encodings
  deriving Repr, DecidableEq

/-- The wording of a clash. -/
def Clash.message : Clash → Text
  | .dialects => "<RegexFlag.V0|V1: 8448>"
  | .encodings => "ASCII, LOCALE and UNICODE flags are mutually incompatible"

/-- A reference can be followed.  A group that was opened more than once cannot be called, and a
choice by a group of the name `DEFINE` may stand for one that is never made. -/
def Reference.isKnown (groups : Groups) (opened : List Nat) (reference : Reference) : Bool :=
  match reference, groups.number? reference.target with
  | .call _, some number => number = 0 || opened.count number ≤ 1
  | .again _, found => found.isSome
  | .given name, found => found.isSome || name = .name "DEFINE"
  | .call _, none => false

/-- Read a text under flags. -/
def readUnder (whole : List Flag) (text : Text) : Except Stop (Regex × Cursor) := do
  let flags := if whole.contains .newer then .fullCase :: whole else whole
  let start : Cursor := ⟨text, whole, flags, flags.contains .verbose, 0, [], [], []⟩
  let (regex, cursor) ← (Reader.choices (8 * text.length + 8)).run start
  let (rest, cursor) ← Reader.rest.run cursor
  if rest.isEmpty then return (regex, cursor) else throw .invalid

/-- An expression that was read, as a program. -/
def programOf? (regex : Regex) (cursor : Cursor) : Option Program :=
  let groups : Groups := ⟨cursor.count, cursor.names⟩
  let references := regex.references
  if references.all (Reference.isKnown groups cursor.opened) then
    let used := references.filterMap fun reference => groups.number? reference.target
    some ⟨regex.keepOnly used, groups, cursor.whole.contains .backward⟩
  else none

/-- Read a text under flags, and again under those that it sets for the whole.  It cannot set more
than there are. -/
def readAgain : (fuel : Nat) → List Flag → Text → Except Clash (Option Program)
  | 0, _, _ => .ok none
  | fuel + 1, whole, text =>
    if whole.contains .older && whole.contains .newer then .error .dialects
    else
      match readUnder whole text with
      | .error (.flagged flags) => readAgain fuel flags text
      | .error _ => .ok none
      | .ok (regex, cursor) =>
        if (cursor.flags.filter Flag.isEncoding).eraseDups.length > 1 then .error .encodings
        else .ok (programOf? regex cursor)

/-- The expression of a text, in which a point stands for every character. -/
def Program.ofText? (text : Text) : Except Clash (Option Program) :=
  readAgain (Flag.letters.length + 1) [.dotAll] text

end SafeDelete.Regex
