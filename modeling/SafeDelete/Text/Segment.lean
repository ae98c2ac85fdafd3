/-
Module: SafeDelete.Text.Segment
Purpose: Where a text may be cut between characters that readers see, and between words.
Main exports: isClusterEdge, isSegmentEdge
-/
import SafeDelete.Text.Category
import SafeDelete.Text.Letter
import SafeDelete.Text.Script
import SafeDelete.Text.Trait

namespace SafeDelete

/-- The code point is in a set that has a name. -/
def hasTrait (name : String) (n : Nat) : Bool :=
  traits.any fun entry =>
    entry.1.contains name && entry.2.any fun range => range.1 ≤ n && n ≤ range.2

/-- The code point is between others. -/
def isBetween (first last n : Nat) : Bool :=
  first ≤ n && n ≤ last

/-- A half of a flag. -/
def isFlagHalf (n : Nat) : Bool :=
  isBetween 0x1F1E6 0x1F1FF n

/-- A picture that others may be joined to. -/
def isPicture (n : Nat) : Bool :=
  hasTrait "EXTENDEDPICTOGRAPHIC" n

/-- A sign that joins what is around it. -/
def isJoiner (n : Nat) : Bool :=
  n == 0x200D

/-- How many characters of a kind come right before a place. -/
def countBefore (kind : Nat → Bool) (text : Array Char) : (place : Nat) → Nat
  | 0 => 0
  | place + 1 =>
    if (text[place]?).any fun c => kind c.toNat then countBefore kind text place + 1 else 0

/-! ## Characters that readers see -/

/-- The part that a character has in one that readers see. -/
inductive ClusterPart where
  | carriageReturn
  | lineFeed
  | control
  | extender
  | joiner
  | spacing
  | leader
  /-- A leading consonant, a vowel or a trailing consonant of a syllable block. -/
  | leading
  | vowel
  | trailing
  /-- A whole syllable block, with a trailing consonant or without. -/
  | openBlock
  | closedBlock
  | flagHalf
  | other
  deriving Repr, DecidableEq

/-- The part of a code point. -/
def ClusterPart.of (c : Char) : ClusterPart :=
  let n := c.toNat
  let category := categoryOf c
  if n = 0x0D then .carriageReturn
  else if n = 0x0A then .lineFeed
  else if isJoiner n then .joiner
  else if isBetween 0x600 0x605 n || n = 0x6DD || n = 0x70F || isBetween 0x890 0x891 n ||
      n = 0x8E2 || n = 0x110BD || n = 0x110CD then .leader
  else if category = "Mn" || category = "Me" || n = 0x200C || isBetween 0xFF9E 0xFF9F n ||
      isBetween 0x1F3FB 0x1F3FF n || isBetween 0xE0020 0xE007F n then .extender
  else if category = "Cc" || category = "Cf" || category = "Zl" || category = "Zp" then .control
  else if category = "Mc" || n = 0xE33 || n = 0xEB3 then .spacing
  else if isBetween 0x1100 0x115F n || isBetween 0xA960 0xA97C n then .leading
  else if isBetween 0x1160 0x11A7 n || isBetween 0xD7B0 0xD7C6 n then .vowel
  else if isBetween 0x11A8 0x11FF n || isBetween 0xD7CB 0xD7FB n then .trailing
  else if isBetween 0xAC00 0xD7A3 n then
    if (n - 0xAC00) % 28 = 0 then .openBlock else .closedBlock
  else if isFlagHalf n then .flagHalf
  else .other

namespace ClusterPart

/-- The part ends a line or has no ink. -/
def isControl (part : ClusterPart) : Bool :=
  part = .carriageReturn || part = .lineFeed || part = .control

/-- Two parts of a syllable block that stay together. -/
def sameBlock (before after : ClusterPart) : Bool :=
  match before, after with
  | .leading, .leading => true
  | .leading, .vowel => true
  | .leading, .openBlock => true
  | .leading, .closedBlock => true
  | .openBlock, .vowel => true
  | .openBlock, .trailing => true
  | .vowel, .vowel => true
  | .vowel, .trailing => true
  | .closedBlock, .trailing => true
  | .trailing, .trailing => true
  | _, _ => false

end ClusterPart

/-- The picture before a joiner at a place, with marks between them. -/
def isJoinedPicture (text : Array Char) (place : Nat) : Bool :=
  (text[place - 1]?).any fun c =>
    isJoiner c.toNat &&
      let marks := countBefore (fun n => ClusterPart.of (Char.ofNat n) = .extender) text (place - 1)
      (text[place - 2 - marks]?).any fun d => isPicture d.toNat

/-- A text may be cut at a place without cutting what readers see as one character. -/
def isClusterEdge (text : Array Char) (place : Nat) : Bool :=
  if place = 0 then true
  else
    match text[place - 1]?, text[place]? with
    | some left, some right =>
      let before := ClusterPart.of left
      let after := ClusterPart.of right
      if before = .carriageReturn && after = .lineFeed then false
      else if before.isControl || after.isControl then true
      else if before.sameBlock after then false
      else if after = .extender || after = .joiner || after = .spacing then false
      else if before = .leader then false
      else if isPicture right.toNat && isJoinedPicture text place then false
      else if before = .flagHalf && after = .flagHalf then
        countBefore isFlagHalf text place % 2 = 0
      else true
    | _, _ => true

/-! ## Words -/

/-- The part that a character has in words. -/
inductive WordPart where
  | carriageReturn
  | lineFeed
  | lineBreak
  /-- A mark or a sign that belongs to what comes before it. -/
  | attached
  | joiner
  | blank
  | katakana
  | hebrew
  | letter
  | singleQuote
  | doubleQuote
  /-- A mark between letters and between digits, between letters, between digits. -/
  | between
  | betweenLetters
  | betweenDigits
  | digit
  | connector
  | flagHalf
  | other
  deriving Repr, DecidableEq

/-- The code points between letters and between digits. -/
def marksBetween : List Nat := [0x2E, 0x2018, 0x2019, 0x2024, 0xFE52, 0xFF07, 0xFF0E]

/-- The code points between letters. -/
def marksBetweenLetters : List Nat :=
  [0x3A, 0xB7, 0x387, 0x55F, 0x5F4, 0x2027, 0xFE13, 0xFE55, 0xFF1A]

/-- The code points between digits. -/
def marksBetweenDigits : List Nat :=
  [0x2C, 0x3B, 0x37E, 0x589, 0x60C, 0x60D, 0x66C, 0x7F8, 0x2044, 0xFE10, 0xFE14, 0xFE50, 0xFE54,
    0xFF0C, 0xFF1B]

/-- The scripts whose words have no blanks between them, by their four letters. -/
def unspacedScripts : List Text :=
  ["Thai", "Laoo", "Khmr", "Mymr", "Hira", "Lana", "Tale", "Talu", "Tavt", "Ahom"]

/-- The part of a code point. -/
def WordPart.of (c : Char) : WordPart :=
  let n := c.toNat
  let category := categoryOf c
  if n = 0x0D then .carriageReturn
  else if n = 0x0A then .lineFeed
  else if isBetween 0x0B 0x0C n || n = 0x85 || n = 0x2028 || n = 0x2029 then .lineBreak
  else if isJoiner n then .joiner
  else if Text.startsWith "M" category || n = 0x200C || isBetween 0xFF9E 0xFF9F n ||
      isBetween 0x1F3FB 0x1F3FF n || (category = "Cf" && n != 0x200B) then .attached
  else if category = "Zs" && n != 0xA0 && n != 0x2007 && n != 0x202F then .blank
  else if n = 0x27 then .singleQuote
  else if n = 0x22 then .doubleQuote
  else if marksBetween.contains n then .between
  else if marksBetweenLetters.contains n then .betweenLetters
  else if marksBetweenDigits.contains n then .betweenDigits
  else if category = "Nd" || n = 0x66B then .digit
  else if category = "Pc" then .connector
  else if isFlagHalf n then .flagHalf
  else if scriptOf c = "Kana" || n = 0x30FC then .katakana
  else if scriptOf c = "Hebr" && category = "Lo" then .hebrew
  else if isAlphabetic c && !hasTrait "IDEOGRAPHIC" n &&
      !unspacedScripts.contains (scriptOf c) then .letter
  else .other

namespace WordPart

/-- The part is a letter of a script with blanks between words. -/
def isLetter (part : WordPart) : Bool :=
  part = .letter || part = .hebrew

/-- The part ends a line. -/
def isBreak (part : WordPart) : Bool :=
  part = .carriageReturn || part = .lineFeed || part = .lineBreak

/-- The part may stand between letters. -/
def joinsLetters (part : WordPart) : Bool :=
  part = .between || part = .betweenLetters || part = .singleQuote

/-- The part may stand between digits. -/
def joinsDigits (part : WordPart) : Bool :=
  part = .between || part = .betweenDigits || part = .singleQuote

/-- The part belongs to what comes before it. -/
def isAttached (part : WordPart) : Bool :=
  part = .attached || part = .joiner

/-- The part goes on with a connector. -/
def takesConnector (part : WordPart) : Bool :=
  part.isLetter || part = .digit || part = .katakana || part = .connector

end WordPart

/-- The parts before a place, the nearest first, without those that belong to others. -/
def partsBefore (text : Array Char) (place : Nat) : List WordPart :=
  ((text.extract 0 place).toList.reverse.map WordPart.of).filter fun part => !part.isAttached

/-- The parts from a place on, without those that belong to others. -/
def partsFrom (text : Array Char) (place : Nat) : List WordPart :=
  ((text.extract place text.size).toList.map WordPart.of).filter fun part => !part.isAttached

/-- Two neighbours stay in one word, by what is around them. -/
def stayTogether (before after : List WordPart) : Bool :=
  let left := before.headD .other
  let right := after.headD .other
  let beyondLeft := before.tail.headD .other
  let beyondRight := after.tail.headD .other
  (left.isLetter && right.isLetter) ||
    (left.isLetter && right.joinsLetters && beyondRight.isLetter) ||
    (beyondLeft.isLetter && left.joinsLetters && right.isLetter) ||
    (left = .hebrew && right = .singleQuote) ||
    (left = .hebrew && right = .doubleQuote && beyondRight = .hebrew) ||
    (beyondLeft = .hebrew && left = .doubleQuote && right = .hebrew) ||
    (left = .digit && (right = .digit || right.isLetter)) ||
    (left.isLetter && right = .digit) ||
    (beyondLeft = .digit && left.joinsDigits && right = .digit) ||
    (left = .digit && right.joinsDigits && beyondRight = .digit) ||
    (left = .katakana && right = .katakana) ||
    (left.takesConnector && right = .connector) ||
    (left = .connector && right.takesConnector) ||
    (left = .flagHalf && right = .flagHalf &&
      (before.takeWhile fun part => part = .flagHalf).length % 2 = 1)

/-- A text may be cut at a place without cutting a word. -/
def isSegmentEdge (text : Array Char) (place : Nat) : Bool :=
  if text.isEmpty then false
  else
    match (if place = 0 then none else text[place - 1]?), text[place]? with
    | some left, some right =>
      let before := WordPart.of left
      let after := WordPart.of right
      if before = .carriageReturn && after = .lineFeed then false
      else if before.isBreak || after.isBreak then true
      else if before = .joiner && isPicture right.toNat then false
      else if before = .blank && after = .blank then false
      else if after.isAttached then false
      else !stayTogether (partsBefore text place) (partsFrom text place)
    | _, _ => true

end SafeDelete
