/-
Module: SafeDelete.Regex.Quantifier
Purpose: What may follow a part of an expression: how often it is repeated, and with which errors.
Main exports: Regex.Reader.quantifier, Regex.Reader.tolerance
-/
import SafeDelete.Regex.Escape

namespace SafeDelete.Regex

/-- Repetitions must stay below this number. -/
def repeatLimit : Nat := 4294967295

/-- Errors as they are read: bounds of each kind by its letter, and the costs of kinds with the most
that all may cost. -/
structure ErrorRules where
  bounds : List (Char × Bounds)
  costs : Option (List (Char × Nat) × Nat)

namespace ErrorRules

/-- The bounds of a kind. -/
def boundsOf? (rules : ErrorRules) (kind : Char) : Option Bounds :=
  (rules.bounds.find? fun entry => entry.1 = kind).map Prod.snd

/-- The cost of a kind; one that is not mentioned costs nothing. -/
def costOf (costs : List (Char × Nat)) (kind : Char) : Nat :=
  ((costs.find? fun entry => entry.1 = kind).map Prod.snd).getD 0

/-- What the rules allow for.  A kind with a cost may occur; where some kinds are mentioned the
others may not; without costs each error costs one, and all of them as much as there may be
errors. -/
def toTolerance (rules : ErrorRules) (strays : Option (CaseRule × CharSet)) : Tolerance :=
  let isKind := fun (kind : Char) => kind = 'd' || kind = 'i' || kind = 's'
  let costly := fun (kind : Char) =>
    rules.costs.any fun (costs, _) => costs.any fun entry => entry.1 = kind
  let mentioned := (rules.bounds.any fun entry => isKind entry.1) || ['d', 'i', 's'].any costly
  let bounds := fun (kind : Char) =>
    (rules.boundsOf? kind).getD
      (if costly kind then ⟨0, none⟩ else if mentioned then ⟨0, some 0⟩ else ⟨0, none⟩)
  let errors := (rules.boundsOf? 'e').getD ⟨0, none⟩
  let (costs, mostCost) : Errors × Option Nat :=
    match rules.costs with
    | some (costs, most) => (⟨costOf costs 's', costOf costs 'i', costOf costs 'd'⟩, some most)
    | none => (⟨1, 1, 1⟩, errors.most)
  ⟨bounds 's', bounds 'i', bounds 'd', errors, costs, mostCost, strays⟩

end ErrorRules

namespace Reader

/-! ## Repetition -/

/-- Bounds of a repetition in braces, whose opening one was taken, if they come next. -/
def bracedBounds : Reader (Option Bounds) := do
  let before ← get
  let least ← digits
  let ranged ← accept ","
  let most ← if ranged then digits else pure least
  if (!ranged && least.isEmpty) || !(← accept ['\x7d']) then
    set before
    return none
  let bounds : Bounds :=
    ⟨numeralValue least, if most.isEmpty then none else some (numeralValue most)⟩
  if repeatLimit ≤ bounds.least then refuse
  if bounds.most.any fun most => repeatLimit ≤ most || most < bounds.least then refuse
  return some bounds

/-- The bounds of a quantifier that starts with the given character, if it is one. -/
def quantifier (c : Char) : Reader (Option Bounds) := do
  if c = '?' then return some ⟨0, some 1⟩
  if c = '*' then return some ⟨0, none⟩
  if c = '+' then return some ⟨1, none⟩
  bracedBounds

/-- How a repetition is tried. -/
def appetite : Reader Appetite := do
  if ← accept "?" then return .reluctant
  if ← accept "+" then return .possessive
  return .greedy

/-! ## Errors -/

/-- A number that has to come next. -/
def limit : Reader Nat := do
  let digits ← digits
  if digits.isEmpty then refuse
  return numeralValue digits

/-- A comparison: whether the limit itself is allowed. -/
def comparison? : Reader (Option Bool) := do
  if ← accept "<=" then return some true
  if ← accept "<" then return some false
  return none

/-- A limit from above that may not be reached. -/
def upperLimit (inclusive : Bool) : Reader Nat := do
  let most ← limit
  if inclusive then return most
  if most = 0 then refuse
  return most - 1

/-- The letter of a kind of errors, which no bounds were given for. -/
def errorKind (rules : ErrorRules) (c : Option Char) : Reader Char := do
  match c with
  | none => absent
  | some c => if ("deis" : Text).contains c && (rules.boundsOf? c).isNone then return c else absent

/-- Bounds of one kind of errors: from above after its letter, or from both sides around it. -/
def errorBounds (rules : ErrorRules) : Reader ErrorRules := do
  let before ← get
  match ← next? with
  | none => absent
  | some c =>
    if c.isAlpha then
      let kind ← errorKind rules (some c)
      match ← comparison? with
      | none => return { rules with bounds := (kind, ⟨0, none⟩) :: rules.bounds }
      | some inclusive =>
        let most ← upperLimit inclusive
        return { rules with bounds := (kind, ⟨0, some most⟩) :: rules.bounds }
    else if c.isDigit then
      set before
      let least ← limit
      match ← comparison? with
      | none => absent
      | some fromLeast =>
        let kind ← errorKind rules (← next?)
        match ← comparison? with
        | none => absent
        | some toMost =>
          let most ← limit
          let least := if fromLeast then least else least + 1
          if (!toMost && most = 0) || (if toMost then most else most - 1) < least then refuse
          let most := if toMost then most else most - 1
          return { rules with bounds := (kind, ⟨least, some most⟩) :: rules.bounds }
    else absent

/-- The cost of one kind of errors. -/
def errorCost (costs : List (Char × Nat)) : Reader (List (Char × Nat)) := do
  let factor ← digits
  match ← next? with
  | none => absent
  | some kind =>
    if !("dis" : Text).contains kind then absent
    if costs.any fun entry => entry.1 = kind then refuse
    return (kind, if factor.isEmpty then 1 else numeralValue factor) :: costs

/-- The costs of further kinds. -/
def errorCostsFrom : (fuel : Nat) → List (Char × Nat) → Reader (List (Char × Nat))
  | 0, costs => return costs
  | fuel + 1, costs => do
    if ← accept "+" then errorCostsFrom fuel (← errorCost costs) else return costs

/-- The costs of kinds of errors, and the most that all may cost. -/
def errorCosts (rules : ErrorRules) : Reader ErrorRules := do
  if rules.costs.isSome then refuse
  let costs ← errorCostsFrom (← rest).length (← errorCost [])
  match ← comparison? with
  | none => absent
  | some inclusive => return { rules with costs := some (costs, ← upperLimit inclusive) }

/-- One rule on errors. -/
def errorRule (rules : ErrorRules) : Reader ErrorRules := do
  let before ← get
  try errorBounds rules
  catch stop =>
    if stop ≠ .absent then throw stop
    set before
    errorCosts rules

/-- Further rules on errors, with commas between them. -/
def errorRulesFrom : (fuel : Nat) → ErrorRules → Reader ErrorRules
  | 0, rules => return rules
  | fuel + 1, rules => do
    if ← accept "," then errorRulesFrom fuel (← errorRule rules) else return rules

/-- The rules on errors in braces, if they come next. -/
def errorRules? : Reader (Option ErrorRules) := do
  let before ← get
  try
    let rules ← errorRule ⟨[], none⟩
    return some (← errorRulesFrom (← rest).length rules)
  catch stop =>
    if stop ≠ .absent then throw stop
    set before
    return none

/-- What a character stands for that opens nothing. -/
def plain (c : Char) : Reader Regex := do
  match c with
  | '.' =>
    if ← has .dotAll then return .one .exact .all
    if ← has .segments then
      return .one .exact
        (.outside (.ofRanges [(0x0A, 0x0D), (0x85, 0x85), (0x2028, 0x2029)]))
    return .one .exact (.outside (.only '\n'))
  | '^' =>
    if !(← has .multiline) then return .anchor .start
    return .anchor (if ← has .segments then .breakStart else .lineStart)
  | '$' =>
    let segments ← has .segments
    if ← has .multiline then return .anchor (if segments then .breakEnd else .lineEnd)
    return .anchor (if segments then .lastBreak else .lastLine)
  | _ => return .one (← caseRule) (.only c)

/-- What an escape outside of a set stands for. -/
def escaped : Reader Regex := do
  match ← escape false with
  | .code point => return .one (← caseRule) (.between point point)
  | .set set => return .one (← caseRule) set
  | .whole regex => return regex

/-- The characters that errors may put in. -/
def strays : Reader (Option (CaseRule × CharSet)) := do
  let part ←
    match ← next? with
    | none => refuse
    | some c =>
      if c = '\\' then escaped
      else if c = '[' then pure (Regex.one (← caseRule) (← charSet))
      else if ("()|?*+\x7b^$#" : Text).contains c then refuse
      else plain c
  match part with
  | .one rule set => return some (rule, set)
  | _ => return none

/-- Which errors are allowed for, in braces, whose opening one was taken, if that comes next. -/
def tolerance? : Reader (Option Tolerance) := do
  match ← errorRules? with
  | none => return none
  | some rules =>
    let strays ← if ← accept ":" then strays else pure none
    expect ['\x7d']
    return some (rules.toTolerance strays)

end Reader

end SafeDelete.Regex
