/-
Module: SafeDelete.Regex.Match
Purpose: Which texts a regular expression accepts as a whole.
Main exports: Regex.Outcome, Regex.outcomes, Regex.Program.accepts
-/
import SafeDelete.Regex.Basic
import SafeDelete.Text.Segment
import Std.Data.HashSet

namespace SafeDelete.Regex

/-!
An expression is tried from an ordered list of outcomes and leads to another one: the outcomes of
the first come before those of the second, and each of them in the order in which it would be tried.
An outcome that came up before is dropped, since whatever follows it was tried already.
-/

/-- How far a text was read, the texts of groups, and the errors that were allowed for. -/
structure Outcome where
  position : Nat
  groups : List (Nat × Text)
  errors : Errors
  deriving Repr, DecidableEq

instance : Hashable Outcome where
  hash outcome :=
    let groups := outcome.groups.map fun group => (group.1, group.2.map Char.toNat)
    mixHash (hash outcome.position) (mixHash (hash groups) (hash outcome.errors))

/-- The outcomes of a part, in order.  Once they are settled, nothing but them is tried. -/
structure Outcomes where
  found : List Outcome
  settled : Bool
  deriving Repr, DecidableEq

/-- How a part is tried: from the end of the text or from its start, and with which errors. -/
structure Manner where
  backward : Bool
  tolerance : Option Tolerance
  deriving Repr, DecidableEq

namespace Errors

/-- No errors. -/
def none : Errors := ⟨0, 0, 0⟩

/-- The errors of both. -/
def plus (a b : Errors) : Errors :=
  ⟨a.substitutions + b.substitutions, a.insertions + b.insertions, a.deletions + b.deletions⟩

/-- How many errors there are. -/
def total (errors : Errors) : Nat :=
  errors.substitutions + errors.insertions + errors.deletions

/-- What errors cost. -/
def cost (costs errors : Errors) : Nat :=
  costs.substitutions * errors.substitutions + costs.insertions * errors.insertions +
    costs.deletions * errors.deletions

/-- One error of a kind. -/
def substitution : Errors := ⟨1, 0, 0⟩

/-- A character too many. -/
def insertion : Errors := ⟨0, 1, 0⟩

/-- A character too few. -/
def deletion : Errors := ⟨0, 0, 1⟩

end Errors

/-- A number is not above a limit. -/
def withinMost (most : Option Nat) (n : Nat) : Bool :=
  most.all fun most => n ≤ most

namespace Tolerance

/-- So many errors may be made. -/
def allows (tolerance : Tolerance) (errors : Errors) : Bool :=
  withinMost tolerance.substitutions.most errors.substitutions &&
    withinMost tolerance.insertions.most errors.insertions &&
    withinMost tolerance.deletions.most errors.deletions &&
    withinMost tolerance.errors.most errors.total &&
    withinMost tolerance.mostCost (tolerance.costs.cost errors)

/-- At least so many errors have to be made. -/
def isEnough (tolerance : Tolerance) (errors : Errors) : Bool :=
  tolerance.substitutions.least ≤ errors.substitutions &&
    tolerance.insertions.least ≤ errors.insertions &&
    tolerance.deletions.least ≤ errors.deletions && tolerance.errors.least ≤ errors.total

/-- The character may be one of an error. -/
def takes (tolerance : Tolerance) (c : Char) : Bool :=
  tolerance.strays.all fun stray => stray.2.admits stray.1 c

end Tolerance

namespace Outcome

/-- The text of a group. -/
def group? (outcome : Outcome) (number : Nat) : Option Text :=
  (outcome.groups.find? fun group => group.1 = number).map Prod.snd

/-- The outcome with the text of a group kept. -/
def keep (outcome : Outcome) (number : Nat) (text : Text) : Outcome :=
  { outcome with groups := (number, text) :: outcome.groups.filter fun group => group.1 ≠ number }

/-- The outcome with another error, if that is allowed for. -/
def erring (tolerance : Tolerance) (error : Errors) (outcome : Outcome) : List Outcome :=
  let errors := outcome.errors.plus error
  if tolerance.allows errors then [{ outcome with errors }] else []

end Outcome

/-- Outcomes in order, of which it is known whether one is among them. -/
structure Collection where
  /-- The outcomes, the last one first. -/
  reversed : List Outcome
  members : Std.HashSet Outcome

namespace Collection

/-- No outcomes. -/
def none : Collection := ⟨[], ∅⟩

/-- Another outcome, unless it is there. -/
def add (collection : Collection) (outcome : Outcome) : Collection :=
  if collection.members.contains outcome then collection
  else ⟨outcome :: collection.reversed, collection.members.insert outcome⟩

/-- The outcomes in order. -/
def toList (collection : Collection) : List Outcome :=
  collection.reversed.reverse

end Collection

/-- Each outcome once, in order. -/
def eachOnce : List Outcome → List Outcome
  | [] => []
  | [outcome] => [outcome]
  | outcomes => (outcomes.foldl Collection.add .none).toList

namespace Outcomes

/-- Outcomes after which others may be tried. -/
def of (found : List Outcome) : Outcomes := ⟨found, false⟩

/-- What a step leads to from each of some outcomes, in order. -/
def fromEach (step : Outcome → Outcomes) : List Outcome → Outcomes
  | [] => of []
  | outcome :: rest =>
    let first := step outcome
    if first.settled then first
    else
      let later := fromEach step rest
      ⟨first.found ++ later.found, later.settled⟩

/-- Each outcome once. -/
def distinct (outcomes : Outcomes) : Outcomes :=
  { outcomes with found := eachOnce outcomes.found }

/-- Outcomes that are changed one by one. -/
def changed (outcomes : Outcomes) (change : Outcome → Outcome) : Outcomes :=
  { outcomes with found := outcomes.found.map change }

/-- The first of two parts, and the second where the first did not settle it. -/
def orElse (first : Outcomes) (second : Unit → Outcomes) : Outcomes :=
  if first.settled then first
  else
    let second := second ()
    ⟨first.found ++ second.found, second.settled⟩

end Outcomes

/-! ## Places -/

/-- The character of a place is of a kind. -/
def isAt (kind : Char → Bool) (text : Array Char) (position : Nat) : Bool :=
  (text[position]?).any kind

/-- The character before a place is of a kind. -/
def isBefore (kind : Char → Bool) (text : Array Char) (position : Nat) : Bool :=
  position != 0 && isAt kind text (position - 1)

/-- The characters that end a line. -/
def endsLine (c : Char) : Bool :=
  (0x0A ≤ c.toNat && c.toNat ≤ 0x0D) || c.toNat == 0x85 || c.toNat == 0x2028 || c.toNat == 0x2029

/-- The place is between the two characters of one line break. -/
def isInBreak (text : Array Char) (position : Nat) : Bool :=
  isBefore (· == '\r') text position && isAt (· == '\n') text position

/-- Where the break is that ends the text, if one does; otherwise the end. -/
def breakBeforeEnd (text : Array Char) : Nat :=
  if isBefore endsLine text text.size then
    if isInBreak text (text.size - 1) then text.size - 2 else text.size - 1
  else text.size

namespace WordRule

/-- The characters of words. -/
def hasChar (rule : WordRule) (c : Char) : Bool :=
  isWordChar c && (rule != .asciiOnly || c.toNat < 0x80)

/-- Words begin or end at the place. -/
def isEdge (rule : WordRule) (text : Array Char) (position : Nat) : Bool :=
  match rule with
  | .segments => isSegmentEdge text position
  | _ => isBefore rule.hasChar text position != isAt rule.hasChar text position

/-- A word begins at the place. -/
def isStart (rule : WordRule) (text : Array Char) (position : Nat) : Bool :=
  rule.isEdge text position && !isBefore rule.hasChar text position &&
    isAt rule.hasChar text position

/-- A word ends at the place. -/
def isEnd (rule : WordRule) (text : Array Char) (position : Nat) : Bool :=
  rule.isEdge text position && isBefore rule.hasChar text position &&
    !isAt rule.hasChar text position

end WordRule

/-- What an anchor asks of a place. -/
def Anchor.admits (text : Array Char) (position : Nat) : Anchor → Bool
  | .anywhere => true
  | .start => position == 0
  | .finish => position == text.size
  | .lastLine =>
    position == text.size || (position + 1 == text.size && isAt (· == '\n') text position)
  | .lineStart => position == 0 || isBefore (· == '\n') text position
  | .lineEnd => position == text.size || isAt (· == '\n') text position
  | .lastBreak => position == text.size || position == breakBeforeEnd text
  | .breakStart =>
    position == 0 || (isBefore endsLine text position && !isInBreak text position)
  | .breakEnd =>
    position == text.size || (isAt endsLine text position && !isInBreak text position)
  | .wordEdge rule => rule.isEdge text position
  | .noWordEdge rule => !rule.isEdge text position
  | .wordStart rule => rule.isStart text position
  | .wordEnd rule => rule.isEnd text position
  | .clusterEdge => isClusterEdge text position

/-- The text between two places. -/
def between (text : Array Char) (first last : Nat) : Text :=
  (text.extract (min first last) (max first last)).toList

/-! ## Characters -/

/-- The next character, and the outcome after it. -/
def next? (text : Array Char) (backward : Bool) (outcome : Outcome) : Option (Char × Outcome) :=
  if backward then
    if outcome.position = 0 then none
    else (text[outcome.position - 1]?).map fun c =>
      (c, { outcome with position := outcome.position - 1 })
  else (text[outcome.position]?).map fun c =>
    (c, { outcome with position := outcome.position + 1 })

/-- Something that was not found: another character may stand there, one may be too many before it,
or it may be missing. -/
def slips (text : Array Char) (backward : Bool) (tolerance : Tolerance)
    (find : Outcome → List Outcome) (width : Bool) :
    (fuel : Nat) → Outcome → List Outcome
  | 0, _ => []
  | fuel + 1, outcome =>
    match find outcome with
    | found :: others => found :: others
    | [] =>
      let next := (next? text backward outcome).filter fun next => tolerance.takes next.1
      let other := if width then next.map Prod.snd else some outcome
      let substituted := other.toList.flatMap (Outcome.erring tolerance .substitution)
      let inserted := (next.toList.flatMap fun next =>
        next.2.erring tolerance .insertion).flatMap (slips text backward tolerance find width fuel)
      substituted ++ inserted ++ outcome.erring tolerance .deletion

/-- Outcomes of something that may be looked for with errors. -/
def withSlips (text : Array Char) (manner : Manner) (find : Outcome → List Outcome) (width : Bool)
    (outcome : Outcome) : List Outcome :=
  match manner.tolerance with
  | none => find outcome
  | some tolerance =>
    eachOnce (slips text manner.backward tolerance find width (text.size + 1) outcome)

/-- One character of a kind. -/
def readOne (text : Array Char) (manner : Manner) (kind : Char → Bool) : Outcome → List Outcome :=
  withSlips text manner
    (fun outcome =>
      match next? text manner.backward outcome with
      | some (c, after) => if kind c then [after] else []
      | none => [])
    true

/-- The characters of a word, one by one, which count as others by a rule. -/
def readWord (text : Array Char) (manner : Manner) (rule : CaseRule) (word : Text)
    (outcome : Outcome) : List Outcome :=
  (if manner.backward then word.reverse else word).foldl
    (fun outcomes c =>
      eachOnce (outcomes.flatMap (readOne text manner (rule.variants c).contains))) [outcome]

/-- Characters whose foldings make up a word. -/
def readFolded (text : Array Char) (backward : Bool) :
    (fuel : Nat) → (word : Text) → Outcome → List Outcome
  | _, [], outcome => [outcome]
  | 0, _, _ => []
  | fuel + 1, word, outcome =>
    match next? text backward outcome with
    | none => []
    | some (c, after) =>
      let folded := if backward then (foldFully c).reverse else foldFully c
      if Text.startsWith folded word then
        readFolded text backward fuel (word.drop folded.length) after
      else []

/-- A word under a rule. -/
def readText (text : Array Char) (manner : Manner) (rule : CaseRule) (word : Text)
    (outcome : Outcome) : List Outcome :=
  if rule = .full && manner.tolerance.isNone then
    let word := word.flatMap foldFully
    readFolded text manner.backward word.length (if manner.backward then word.reverse else word)
      outcome
  else readWord text manner rule word outcome

/-- A part with errors may have some characters too many after it. -/
def withRest (text : Array Char) (backward : Bool) (tolerance : Tolerance) :
    (fuel : Nat) → Outcome → List Outcome
  | 0, outcome => [outcome]
  | fuel + 1, outcome =>
    let next := (next? text backward outcome).filter fun next => tolerance.takes next.1
    outcome :: (next.toList.flatMap fun next =>
      next.2.erring tolerance .insertion).flatMap (withRest text backward tolerance fuel)

/-! ## Repetition -/

/-- A repetition as far as it was tried: the outcomes that came up, each with the number of times
that are missing and of those that are left, and the outcomes of the whole, in order. -/
structure Trial where
  seen : Std.HashSet (Nat × Option Nat × Outcome)
  found : Collection
  settled : Bool

/-- Another outcome of the whole. -/
def Trial.add (trial : Trial) (outcome : Outcome) : Trial :=
  if trial.settled then trial else { trial with found := trial.found.add outcome }

/-- Try a step until the times that are missing are made up for, and then up to as many times as are
left.  A time that changes nothing is the last one. -/
def tryTimes (step : Outcome → Outcomes) (stopFirst : Bool) :
    (fuel missing : Nat) → (left : Option Nat) → Trial → Outcome → Trial
  | 0, _, _, trial, _ => trial
  | fuel + 1, missing, left, trial, outcome =>
    if trial.settled || trial.seen.contains (missing, left, outcome) then trial
    else
      let mayStop := missing = 0
      let trial := { trial with seen := trial.seen.insert (missing, left, outcome) }
      let trial := if mayStop && stopFirst then trial.add outcome else trial
      let further := if left = some 0 then Outcomes.of [] else step outcome
      let trial := further.found.foldl
        (fun trial next =>
          if next.position = outcome.position && next.groups = outcome.groups then trial.add next
          else tryTimes step stopFirst fuel (missing - 1) (left.map (· - 1)) trial next) trial
      let trial := { trial with settled := trial.settled || further.settled }
      if mayStop && !stopFirst then trial.add outcome else trial

/-- Try a step a number of times between bounds.  The fuel has room for a time that changes groups
only, beside each one that reads a character. -/
def repeatStep (length : Nat) (step : Outcome → Outcomes) (stopFirst : Bool)
    (least : Nat) (most : Option Nat) (outcomes : List Outcome) : Outcomes :=
  let trial := outcomes.foldl (tryTimes step stopFirst (2 * length + 2) least most)
    ⟨∅, .none, false⟩
  ⟨trial.found.toList, trial.settled⟩

/-! ## Outcomes -/

/-- The outcomes of an expression, in the order in which they are tried, where it is known what the
form of a group leads to. -/
def outcomes (text : Array Char) (groups : Groups)
    (call : Manner → Nat → Outcome → Outcomes) :
    (manner : Manner) → Regex → List Outcome → Outcomes
  | _, .empty, before => .of before
  | manner, .one rule set, before =>
    .of (before.flatMap (readOne text manner (set.admits rule)))
  | manner, .folded word, before =>
    .of (before.flatMap (readText text manner .full word))
  | manner, .sequence first second, before =>
    let parts := if manner.backward then
        let later := outcomes text groups call manner second before
        (later, outcomes text groups call manner first later.found)
      else
        let later := outcomes text groups call manner first before
        (later, outcomes text groups call manner second later.found)
    ⟨parts.2.found, parts.1.settled || parts.2.settled⟩
  | manner, .choice first second, before =>
    (Outcomes.fromEach
      (fun outcome =>
        (outcomes text groups call manner first [outcome]).orElse fun _ =>
          outcomes text groups call manner second [outcome]) before).distinct
  | manner, .repeated appetite least most body, before =>
    let step := fun outcome => outcomes text groups call manner body [outcome]
    match appetite with
    | .greedy => repeatStep text.size step false least most before
    | .reluctant => repeatStep text.size step true least most before
    | .possessive =>
      .of (before.flatMap fun outcome =>
        (repeatStep text.size step false least most [outcome]).found.take 1)
  | manner, .group number body, before =>
    Outcomes.fromEach
      (fun outcome =>
        (outcomes text groups call manner body [outcome]).changed fun after =>
          after.keep number (between text outcome.position after.position)) before
  | manner, .call name, before =>
    match groups.number? name with
    | none => .of []
    | some number =>
      (Outcomes.fromEach
        (fun outcome =>
          (call manner number outcome).changed fun after =>
            { after with groups := outcome.groups }) before).distinct
  | manner, .atomic body, before =>
    .of (before.flatMap fun outcome =>
      (outcomes text groups call manner body [outcome]).found.take 1)
  | manner, .anchor asked, before =>
    .of (before.flatMap (withSlips text manner
      (fun outcome => if asked.admits text outcome.position then [outcome] else []) false))
  | _, .look behind wanted body, before =>
    .of (before.flatMap fun outcome =>
      match (outcomes text groups call ⟨behind, none⟩ body [outcome]).found with
      | [] => if wanted then [] else [outcome]
      | first :: _ => if wanted then [{ outcome with groups := first.groups }] else [])
  | manner, .again rule name, before =>
    .of (before.flatMap fun outcome =>
      match (groups.number? name).bind outcome.group? with
      | none => []
      | some kept => readText text manner rule kept outcome)
  | manner, .given name yes no, before =>
    Outcomes.fromEach
      (fun outcome =>
        if ((groups.number? name).bind outcome.group?).isSome then
          outcomes text groups call manner yes [outcome]
        else outcomes text groups call manner no [outcome]) before
  | manner, .whether behind wanted body yes no, before =>
    Outcomes.fromEach
      (fun outcome =>
        match (outcomes text groups call { manner with backward := behind } body
          [outcome]).found with
        | [] =>
          if wanted then outcomes text groups call manner no [outcome]
          else outcomes text groups call manner yes [outcome]
        | first :: _ =>
          if wanted then
            outcomes text groups call manner yes [{ outcome with groups := first.groups }]
          else outcomes text groups call manner no [outcome]) before
  | manner, .tolerant tolerance body, before =>
    (Outcomes.fromEach
      (fun outcome =>
        let inside := outcomes text groups call { manner with tolerance := some tolerance } body
          [{ outcome with errors := .none }]
        let ends := inside.found.flatMap
          (withRest text manner.backward tolerance (text.size + 1))
        ⟨(ends.filter fun after => tolerance.isEnough after.errors).map fun after =>
          { after with errors := outcome.errors.plus after.errors }, inside.settled⟩)
      before).distinct
  | _, .settle, before => ⟨before.take 1, !before.isEmpty⟩

namespace Program

/-- What the form of a group leads to, where calls go only so deep. -/
def callWithin (program : Program) (text : Array Char) :
    (depth : Nat) → Manner → Nat → Outcome → Outcomes
  | 0, _, _, _ => .of []
  | depth + 1, manner, number, outcome =>
    let body := if number = 0 then some program.whole else program.whole.group? number
    match body with
    | none => .of []
    | some body =>
      outcomes text program.groups (callWithin program text depth) manner body [outcome]

/-- An expression accepts a text as a whole.  A call that comes up again at the same place would go
on for ever, so that no deeper calls than groups at every place are needed. -/
def accepts (program : Program) (text : Text) : Bool :=
  let chars := text.toArray
  let depth := (chars.size + 1) * (program.groups.count + 1)
  let first := if program.backward then chars.size else 0
  let last := if program.backward then 0 else chars.size
  (outcomes chars program.groups (program.callWithin chars depth) ⟨program.backward, none⟩
    program.whole [⟨first, [], .none⟩]).found.any fun outcome => outcome.position == last

end Program

end SafeDelete.Regex
