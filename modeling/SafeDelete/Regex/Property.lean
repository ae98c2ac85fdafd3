/-
Module: SafeDelete.Regex.Property
Purpose: Sets of characters by the names of what they have in common.
Main exports: Regex.Property.find?
-/
import SafeDelete.Regex.CharSet
import SafeDelete.Text.Block
import SafeDelete.Text.Trait

namespace SafeDelete.Regex.Property

/-- A name in capitals, without what may stand between its words. -/
def plainName (name : Text) : Text :=
  (name.filter fun c => c != '_' && c != '-' && c != ' ').map Char.toUpper

/-- What a table has under a name. -/
def lookUp? (table : List (String × α)) (name : Text) : Option α :=
  (table.find? fun entry => entry.1.toList = name).map Prod.snd

/-! ## Sets that are made of others -/

/-- The letters that have a case. -/
def cased : CharSet :=
  .unions (.having .lowercase) [.having .uppercase, .ofCategory "Lt"]

/-- The blanks that end no line. -/
def lineBlanks : CharSet :=
  .union (.only '\t') (.ofCategory "Zs")

/-- The decimal digits of every script. -/
def digits : CharSet :=
  .ofCategory "Nd"

/-- The digits of hexadecimal numbers, wide ones too. -/
def hexDigits : CharSet :=
  .ofRanges [(0x30, 0x39), (0x41, 0x46), (0x61, 0x66), (0xFF10, 0xFF19), (0xFF21, 0xFF26),
    (0xFF41, 0xFF46)]

/-- The characters that leave ink. -/
def visible : CharSet :=
  .outside (.unions (.having .whiteSpace) [.ofCategory "Cc", .ofCategory "Cn", .ofCategory "Cs"])

/-- The characters that a name may start with. -/
def nameStarts : CharSet :=
  .without (.unions (.ofCategory "L") [.ofCategory "Nl", .ofRanges [(0x1885, 0x1886),
    (0x2118, 0x2118), (0x212E, 0x212E), (0x309B, 0x309C)]]) (.between 0x2E2F 0x2E2F)

/-- The characters that a name may have. -/
def nameParts : CharSet :=
  .unions nameStarts [.ofCategory "Mn", .ofCategory "Mc", .ofCategory "Nd", .ofCategory "Pc",
    .ofRanges [(0xB7, 0xB7), (0x387, 0x387), (0x1369, 0x1371), (0x19DA, 0x19DA)]]

/-- The characters that cannot stand in a name once it is brought to a normal form. -/
def unstable : CharSet :=
  .ofRanges [(0x37A, 0x37A), (0x309B, 0x309C), (0xFC5E, 0xFC63), (0xFDFA, 0xFDFB),
    (0xFE70, 0xFE70), (0xFE72, 0xFE72), (0xFE74, 0xFE74), (0xFE76, 0xFE76), (0xFE78, 0xFE78),
    (0xFE7A, 0xFE7A), (0xFE7C, 0xFE7C), (0xFE7E, 0xFE7E)]

/-- The characters that a name may start with in every normal form. -/
def stableStarts : CharSet :=
  .without nameStarts (.union unstable (.ofRanges [(0xE33, 0xE33), (0xEB3, 0xEB3),
    (0xFF9E, 0xFF9F)]))

/-- Sets by their names. -/
def madeOfOthers : List (String × CharSet) := [
  ("ALPHABETIC", .having .alphabetic), ("ALPHA", .having .alphabetic),
  ("LOWERCASE", .having .lowercase), ("LOWER", .having .lowercase),
  ("UPPERCASE", .having .uppercase), ("UPPER", .having .uppercase),
  ("WHITESPACE", .having .whiteSpace), ("WSPACE", .having .whiteSpace),
  ("SPACE", .having .whiteSpace), ("WORD", .having .word), ("CASED", cased), ("ANY", .all),
  ("BLANK", lineBlanks), ("HORIZSPACE", lineBlanks),
  ("VERTSPACE", .ofRanges [(0x0A, 0x0D), (0x85, 0x85), (0x2028, 0x2029)]),
  ("ALNUM", .union (.having .alphabetic) digits),
  ("POSIXALNUM", .union (.having .alphabetic) digits), ("POSIXDIGIT", .between 0x30 0x39),
  ("POSIXPUNCT", .union (.ofCategory "P") (.without (.ofCategory "S") (.having .alphabetic))),
  ("POSIXXDIGIT", .ofRanges [(0x30, 0x39), (0x41, 0x46), (0x61, 0x66)]),
  ("XDIGIT", .union digits hexDigits), ("GRAPH", visible),
  ("PRINT", .without (.union visible lineBlanks) (.ofCategory "Cc")),
  ("IDSTART", nameStarts), ("IDS", nameStarts), ("IDCONTINUE", nameParts), ("IDC", nameParts),
  ("XIDSTART", stableStarts), ("XIDS", stableStarts),
  ("XIDCONTINUE", .without nameParts unstable), ("XIDC", .without nameParts unstable)]

/-! ## Names and values -/

/-- The characters of a category by its name. -/
def category? (name : Text) : Option CharSet :=
  (lookUp? categoryNames name).map fun mark =>
    if mark = "LC" then
      .unions (.ofCategory "Lu") [.ofCategory "Ll", .ofCategory "Lt"]
    else .ofCategory mark.toList

/-- The characters of a script by its name. -/
def script? (name : Text) : Option CharSet :=
  (lookUp? scriptNames name).map fun mark => .having (.script mark.toList)

/-- The characters of a block by its name. -/
def block? (name : Text) : Option CharSet :=
  (lookUp? blocks name).map fun bounds => .between bounds.1 bounds.2

/-- The characters of a set that has a name of its own. -/
def trait? (name : Text) : Option CharSet :=
  (lookUp? madeOfOthers name).or <|
    (traits.find? fun entry => entry.1.contains (String.ofList name)).map fun entry =>
      .ofRanges entry.2

/-- What comes after a beginning. -/
def after? (beginning name : Text) : Option Text :=
  if Text.startsWith beginning name then some (name.drop beginning.length) else none

/-- The characters of a name that stands alone. -/
def alone? (name : Text) : Option CharSet :=
  (category? name).or <| (script? name).or <| (block? name).or <| (trait? name).or <|
    ((after? "IS" name).bind trait?).or <| ((after? "IS" name).bind script?).or <|
      (after? "IN" name).bind block?

/-- A set, or what is outside of it, by an answer. -/
def answered? (set : CharSet) (answer : Text) : Option CharSet :=
  if (["Y", "YES", "T", "TRUE"] : List Text).contains answer then some set
  else if (["N", "NO", "F", "FALSE"] : List Text).contains answer then some (.outside set)
  else none

/-- The characters of a value, which may be said to be one of a certain property. -/
def find? (property : Option Text) (value : Text) : Option CharSet :=
  let value := plainName value
  match property.map plainName with
  | none => alone? value
  | some property =>
    if property = "GC" || property = "GENERALCATEGORY" then
      if value = "ASSIGNED" then some (.outside (.ofCategory "Cn")) else category? value
    else if property = "SC" || property = "SCRIPT" || property = "SCX" ||
        property = "SCRIPTEXTENSIONS" then script? value
    else if property = "BLK" || property = "BLOCK" then block? value
    else (trait? property).bind fun set => answered? set value

/-- The characters of a class in brackets and colons. -/
def posix? (property : Option Text) (value : Text) : Option CharSet :=
  let posixOnly := (["ALNUM", "DIGIT", "PUNCT", "XDIGIT"] : List Text).contains (plainName value)
  find? property (if property.isNone && posixOnly then "POSIX" ++ value else value)

end SafeDelete.Regex.Property
