/-
Module: SafeDelete.Regex.CharSet
Purpose: What an expression may ask of one character.
Main exports: Regex.CharClass, Regex.CharSet, Regex.CaseRule, Regex.CharSet.admits
-/
import SafeDelete.Text.Blank
import SafeDelete.Text.Case
import SafeDelete.Text.Category
import SafeDelete.Text.Letter
import SafeDelete.Text.Script
import SafeDelete.Text.Word

namespace SafeDelete.Regex

/-- The classes of characters that others are made of. -/
inductive CharClass where
  /-- The characters whose category is the given one, or one of its group. -/
  | category (mark : Text)
  | script (mark : Text)
  | alphabetic
  | lowercase
  | uppercase
  | word
  | whiteSpace
  deriving Repr, DecidableEq

/-- The character is in the class. -/
def CharClass.admits (c : Char) : CharClass → Bool
  | .category mark => Text.startsWith mark (categoryOf c)
  | .script mark => scriptOf c == mark
  | .alphabetic => isAlphabetic c
  | .lowercase => isLowercase c
  | .uppercase => isUppercase c
  | .word => isWordChar c
  | .whiteSpace => isWhiteSpace c

/-- Which characters count as one and the same. -/
inductive CaseRule where
  | exact
  /-- Latin letters without marks may differ in case. -/
  | ascii
  /-- Letters may differ in case. -/
  | simple
  /-- A letter is the same as the letters that it is folded to, too. -/
  | full
  deriving Repr, DecidableEq

namespace CaseRule

/-- The characters that count as a character. -/
def variants (rule : CaseRule) (c : Char) : List Char :=
  match rule with
  | .exact => [c]
  | .ascii => [c, if c.isUpper then c.toLower else c.toUpper]
  | .simple => caseVariants c
  | .full => caseVariants c

end CaseRule

/-- A set of characters. -/
inductive CharSet where
  /-- The characters between two code points. -/
  | between (first last : Nat)
  | having (cls : CharClass)
  | outside (set : CharSet)
  | union (a b : CharSet)
  | common (a b : CharSet)
  | without (a b : CharSet)
  /-- The characters in one of the two and not in the other. -/
  | either (a b : CharSet)
  deriving Repr, DecidableEq

namespace CharSet

/-- All characters. -/
def all : CharSet :=
  .between 0 0x10FFFF

/-- No character. -/
def none : CharSet :=
  .outside all

/-- One character only. -/
def only (c : Char) : CharSet :=
  .between c.toNat c.toNat

/-- The characters of some of the ranges. -/
def ofRanges (ranges : List (Nat × Nat)) : CharSet :=
  ranges.foldr (fun range set => .union (.between range.1 range.2) set) none

/-- The characters of some of the sets. -/
def unions (first : CharSet) (rest : List CharSet) : CharSet :=
  rest.foldl .union first

/-- The characters of a set that are among the first 128. -/
def inAscii (set : CharSet) : CharSet :=
  .common (.between 0 0x7F) set

/-- The characters of a category, or of a group of categories. -/
def ofCategory (mark : Text) : CharSet :=
  .having (.category mark)

/-- One of the characters is in the set.  A part of the set looks at all of them on its own. -/
def admitsAny (chars : List Char) : CharSet → Bool
  | .between first last => chars.any fun c => first ≤ c.toNat && c.toNat ≤ last
  | .having cls => chars.any fun c => cls.admits c
  | .outside set => !admitsAny chars set
  | .union a b => admitsAny chars a || admitsAny chars b
  | .common a b => admitsAny chars a && admitsAny chars b
  | .without a b => admitsAny chars a && !admitsAny chars b
  | .either a b => admitsAny chars a != admitsAny chars b

/-- The character, or one that counts as it, is in the set. -/
def admits (rule : CaseRule) (set : CharSet) (c : Char) : Bool :=
  set.admitsAny (rule.variants c)

/-- The character of a set that has no other. -/
def only? : CharSet → Option Char
  | .between first last => if first = last then some (Char.ofNat first) else .none
  | _ => .none

end CharSet

end SafeDelete.Regex
