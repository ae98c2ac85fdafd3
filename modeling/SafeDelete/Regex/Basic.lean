/-
Module: SafeDelete.Regex.Basic
Purpose: Regular expressions as trees.
Main exports: Regex, Regex.Program
-/
import SafeDelete.Regex.CharSet

namespace SafeDelete

namespace Regex

/-- Where words begin and end. -/
inductive WordRule where
  /-- Between a word character of any script and another character. -/
  | everyScript
  /-- Between a word character among the first 128 and another character. -/
  | asciiOnly
  /-- Where a text may be cut without cutting a word. -/
  | segments
  deriving Repr, DecidableEq

/-- What may be asked of a place in a text, without a step from it. -/
inductive Anchor where
  | anywhere
  | start
  | finish
  /-- The end, or before a line feed that is the end. -/
  | lastLine
  | lineStart
  | lineEnd
  /-- The same three, where not only a line feed ends a line. -/
  | lastBreak
  | breakStart
  | breakEnd
  | wordEdge (rule : WordRule)
  | noWordEdge (rule : WordRule)
  | wordStart (rule : WordRule)
  | wordEnd (rule : WordRule)
  | clusterEdge
  deriving Repr, DecidableEq

/-- Which outcomes of a repetition are tried first, and whether others are tried at all. -/
inductive Appetite where
  | greedy
  | reluctant
  | possessive
  deriving Repr, DecidableEq

/-- How a group is referred to. -/
inductive GroupName where
  | number (number : Nat)
  | name (name : Text)
  deriving Repr, DecidableEq

/-- How often something may occur. -/
structure Bounds where
  least : Nat
  most : Option Nat
  deriving Repr, DecidableEq

/-- How many errors of each kind there are, or what one of them costs. -/
structure Errors where
  substitutions : Nat
  insertions : Nat
  deletions : Nat
  deriving Repr, DecidableEq, Hashable

/-- Which errors a part of an expression allows for. -/
structure Tolerance where
  substitutions : Bounds
  insertions : Bounds
  deletions : Bounds
  /-- All errors together. -/
  errors : Bounds
  costs : Errors
  mostCost : Option Nat
  /-- The characters that may stand in for others or come between them. -/
  strays : Option (CaseRule × CharSet)
  deriving Repr, DecidableEq

end Regex

open Regex in
/-- A regular expression. -/
inductive Regex where
  | empty
  /-- One character of a set. -/
  | one (rule : CaseRule) (set : CharSet)
  /-- Characters whose full foldings make up this text. -/
  | folded (word : Text)
  | sequence (first second : Regex)
  | choice (first second : Regex)
  /-- A number of times, between the given bounds. -/
  | repeated (appetite : Appetite) (least : Nat) (most : Option Nat) (body : Regex)
  /-- A part whose text is kept under a number. -/
  | group (number : Nat) (body : Regex)
  /-- The form of a group once more; number zero is the whole expression. -/
  | call (name : GroupName)
  /-- A part of which only the first outcome counts. -/
  | atomic (body : Regex)
  | anchor (asked : Anchor)
  /-- What follows, or what comes before, is or is not of some form. -/
  | look (behind wanted : Bool) (body : Regex)
  /-- The text of a group once more. -/
  | again (rule : CaseRule) (name : GroupName)
  /-- One of two parts, as a group has a text or not. -/
  | given (name : GroupName) (yes no : Regex)
  /-- One of two parts, as what follows or comes before is of some form or not. -/
  | whether (behind wanted : Bool) (body yes no : Regex)
  /-- A part in which errors are allowed for. -/
  | tolerant (tolerance : Tolerance) (body : Regex)
  /-- No other outcomes are tried once this place was reached. -/
  | settle
  deriving Repr, DecidableEq

namespace Regex

/-- No text at all is of this form. -/
def never : Regex :=
  .one .exact .none

/-- The expression is made of nothing. -/
def isEmpty : Regex → Bool
  | .empty => true
  | .sequence first second => first.isEmpty && second.isEmpty
  | .choice first second => first.isEmpty && second.isEmpty
  | .repeated _ _ _ body => body.isEmpty
  | .group _ body => body.isEmpty
  | .atomic body => body.isEmpty
  | .look _ _ body => body.isEmpty
  | .given _ yes no => yes.isEmpty && no.isEmpty
  | .whether _ _ body yes no => (body.isEmpty && yes.isEmpty) || no.isEmpty
  | .tolerant _ body => body.isEmpty
  | _ => false

/-- What refers to a group, and how. -/
inductive Reference where
  | again (name : GroupName)
  | given (name : GroupName)
  | call (name : GroupName)
  deriving Repr, DecidableEq

/-- How the group of a reference is called. -/
def Reference.target : Reference → GroupName
  | .again name => name
  | .given name => name
  | .call name => name

/-- The references of an expression. -/
def references : Regex → List Reference
  | .sequence first second => first.references ++ second.references
  | .choice first second => first.references ++ second.references
  | .repeated _ _ _ body => body.references
  | .group _ body => body.references
  | .call name => [.call name]
  | .atomic body => body.references
  | .look _ _ body => body.references
  | .again _ name => [.again name]
  | .given name yes no => .given name :: yes.references ++ no.references
  | .whether _ _ body yes no => body.references ++ yes.references ++ no.references
  | .tolerant _ body => body.references
  | _ => []

/-- The expression with only those groups kept that have one of the numbers. -/
def keepOnly (used : List Nat) : Regex → Regex
  | .sequence first second => .sequence (first.keepOnly used) (second.keepOnly used)
  | .choice first second => .choice (first.keepOnly used) (second.keepOnly used)
  | .repeated appetite least most body => .repeated appetite least most (body.keepOnly used)
  | .group number body =>
    if used.contains number then .group number (body.keepOnly used) else body.keepOnly used
  | .atomic body => .atomic (body.keepOnly used)
  | .look behind wanted body => .look behind wanted (body.keepOnly used)
  | .given name yes no => .given name (yes.keepOnly used) (no.keepOnly used)
  | .whether behind wanted body yes no =>
    .whether behind wanted (body.keepOnly used) (yes.keepOnly used) (no.keepOnly used)
  | .tolerant tolerance body => .tolerant tolerance (body.keepOnly used)
  | regex => regex

/-- The group of a number in an expression. -/
def group? (wanted : Nat) : Regex → Option Regex
  | .sequence first second => (first.group? wanted).or (second.group? wanted)
  | .choice first second => (first.group? wanted).or (second.group? wanted)
  | .repeated _ _ _ body => body.group? wanted
  | .group number body => if number = wanted then some (.group number body) else body.group? wanted
  | .atomic body => body.group? wanted
  | .look _ _ body => body.group? wanted
  | .given _ yes no => (yes.group? wanted).or (no.group? wanted)
  | .whether _ _ body yes no =>
    (body.group? wanted).or ((yes.group? wanted).or (no.group? wanted))
  | .tolerant _ body => body.group? wanted
  | _ => none

/-! ## Sequences -/

/-- The parts of a text, put next to each other, hold a letter that is folded to several. -/
def hasFullFold (word : Text) : Bool :=
  fullFolds.any fun entry =>
    (List.range word.length).any fun n =>
      Text.startsWith (entry.2.map Char.ofNat) (word.drop n)

/-- A set of which letters that are folded to several may be members, in full. -/
def unfoldSet (set : CharSet) : Regex :=
  match set with
  | .outside _ => .one .simple set
  | .having _ => .one .simple set
  | _ =>
    (fullFolds.filter fun entry => set.admits .exact (Char.ofNat entry.1)).foldr
      (fun entry regex => .choice regex (.folded (entry.2.map Char.ofNat))) (.one .simple set)

/-- Characters in a row under full folding. -/
def ofRow (row : Text) : List Regex :=
  let word := row.flatMap foldFully
  if row.isEmpty then []
  else if hasFullFold word then [.folded word]
  else row.map fun c => .one .simple (.only c)

/-- Bring the characters in a row together that may be folded to others as a whole. -/
def joinRows : (row : Text) → List Regex → List Regex
  | row, [] => ofRow row
  | row, .one .full set :: rest =>
    match set.only? with
    | some c => joinRows (row ++ [c]) rest
    | none => ofRow row ++ unfoldSet set :: joinRows [] rest
  | row, part :: rest => ofRow row ++ part :: joinRows [] rest

/-- The expressions one after the other. -/
def inSequence : List Regex → Regex
  | [] => .empty
  | [part] => part
  | part :: rest => .sequence part (inSequence rest)

/-- The parts of a sequence, in order. -/
def ofParts (parts : List Regex) : Regex :=
  inSequence (joinRows [] parts)

/-! ## Programs -/

/-- The groups of an expression: how many there are, and the names of some. -/
structure Groups where
  count : Nat
  names : List (Text × Nat)
  deriving Repr, DecidableEq

/-- The number of a group, if there is one. -/
def Groups.number? (groups : Groups) : GroupName → Option Nat
  | .number number => if number ≤ groups.count then some number else none
  | .name name => (groups.names.find? fun entry => entry.1 = name).map Prod.snd

/-- An expression with what its parts refer to. -/
structure Program where
  whole : Regex
  groups : Groups
  /-- The text is read from its end. -/
  backward : Bool
  deriving Repr, DecidableEq

end Regex

end SafeDelete
