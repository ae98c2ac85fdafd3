/-
Module: SafeDelete.Json.Parser
Purpose: Reading a JSON text.
Main exports: Json.parse
-/
import SafeDelete.Json.Number

namespace SafeDelete.Json

/-!
Every reader takes what is left of the text and answers with a value and what is left after it.
A failure carries what is left at the place of the fault; only the outermost reader turns that into
a line and a column.
-/

/-- Why a reader stopped, and what was left of the text there. -/
inductive Stop where
  | fault (fault : Fault) (rest : Text)
  | oversized (digits : Nat)

/-- What a reader answers. -/
abbrev Reading (α : Type) := Except Stop (α × Text)

/-- Space between the parts of a value. -/
def isSpace (c : Char) : Bool :=
  c == ' ' || c == '\t' || c == '\n' || c == '\r'

/-- Drop the space at the front. -/
def skipSpace (text : Text) : Text :=
  text.dropWhile isSpace

/-! ## Strings -/

/-- The character that a short escape stands for. -/
def shortEscape? : Char → Option Char
  | '"' => some '"'
  | '\\' => some '\\'
  | '/' => some '/'
  | 'b' => some '\x08'
  | 'f' => some '\x0c'
  | 'n' => some '\n'
  | 'r' => some '\r'
  | 't' => some '\t'
  | _ => none

/-- The first of two halves of a code point. -/
def isHighSurrogate (unit : Nat) : Bool :=
  0xD800 ≤ unit && unit ≤ 0xDBFF

/-- The second of two halves of a code point. -/
def isLowSurrogate (unit : Nat) : Bool :=
  0xDC00 ≤ unit && unit ≤ 0xDFFF

/-- The code point of two halves. -/
def joinSurrogates (high low : Nat) : Char :=
  Char.ofNat (0x10000 + (high - 0xD800) * 0x400 + (low - 0xDC00))

/-- The character of a single unit; a half without its partner is replaced. -/
def charOfUnit (unit : Nat) : Char :=
  if isHighSurrogate unit || isLowSurrogate unit then Char.ofNat 0xFFFD else Char.ofNat unit

/-- A part of a string: a character, or a numbered escape. -/
inductive StringPart where
  | char (c : Char)
  | unit (unit : Nat)
  deriving Repr, DecidableEq

/-- The characters that the parts stand for; two halves next to each other are one character. -/
def joinParts : List StringPart → Text
  | [] => []
  | .char c :: parts => c :: joinParts parts
  | .unit high :: .unit low :: parts =>
    if isHighSurrogate high && isLowSurrogate low then joinSurrogates high low :: joinParts parts
    else charOfUnit high :: joinParts (.unit low :: parts)
  | .unit unit :: parts => charOfUnit unit :: joinParts parts

/-- Put a part before those that have been read. -/
def prepend (part : StringPart) (reading : Reading (List StringPart)) :
    Reading (List StringPart) :=
  reading.map fun (parts, rest) => (part :: parts, rest)

/-- Read the parts of a string after its opening quote; `opened` is the text from that quote on.
A numbered escape is complete only with something after it. -/
def readParts (opened : Text) : Text → Reading (List StringPart)
  | [] => .error (.fault .unterminatedString opened)
  | '"' :: rest => .ok ([], rest)
  | ['\\'] => .error (.fault .unterminatedString opened)
  | '\\' :: 'u' :: a :: b :: c :: d :: next :: rest =>
    match hexValue? [a, b, c, d] with
    | none => .error (.fault .unicodeEscape ('u' :: a :: b :: c :: d :: next :: rest))
    | some unit => prepend (.unit unit) (readParts opened (next :: rest))
  | '\\' :: c :: rest =>
    if c = 'u' then .error (.fault .unicodeEscape (c :: rest))
    else
      match shortEscape? c with
      | some meant => prepend (.char meant) (readParts opened rest)
      | none => .error (.fault .escape ('\\' :: c :: rest))
  | c :: rest =>
    if c.toNat ≤ 0x1F then .error (.fault .controlCharacter (c :: rest))
    else prepend (.char c) (readParts opened rest)

/-- Read a string after its opening quote. -/
def readString (opened text : Text) : Reading Text :=
  (readParts opened text).map fun (parts, rest) => (joinParts parts, rest)

/-! ## Values -/

/-- The words that are values. -/
def literals : List (Text × Json) := [
  ("null", .null), ("true", .bool true), ("false", .bool false), ("NaN", .float .nan),
  ("Infinity", .float (.infinity false)), ("-Infinity", .float (.infinity true))]

/-- A word that is a value, at the front of a text. -/
def readLiteral? (text : Text) : Option (Json × Text) :=
  (literals.find? fun (word, _) => Text.startsWith word text).map fun (word, value) =>
    (value, text.drop word.length)

/-- Read a value that has no parts. -/
def readScalar (text : Text) : Reading Json :=
  match readLiteral? text with
  | some found => .ok found
  | none =>
    match readNumber? text with
    | some (.value number, rest) => .ok (number, rest)
    | some (.oversized digits, _) => .error (.oversized digits)
    | none => .error (.fault .value text)

mutual

/-- Read a value; the fuel bounds the steps to come. -/
def readValue : (fuel : Nat) → Text → Reading Json
  | 0, text => .error (.fault .value text)
  | fuel + 1, text =>
    match text with
    | '"' :: rest => (readString text rest).map fun (value, rest) => (.str value, rest)
    | '[' :: rest =>
      match skipSpace rest with
      | ']' :: rest => .ok (.arr [], rest)
      | rest => (readItems fuel rest).map fun (items, rest) => (.arr items, rest)
    | '\x7b' :: rest =>
      match skipSpace rest with
      | '\x7d' :: rest => .ok (.obj [], rest)
      | rest =>
        (readFields fuel rest).map fun (fields, rest) => (.obj (Fields.ofList fields), rest)
    | _ => readScalar text

/-- Read the items of an array up to its closing bracket. -/
def readItems : (fuel : Nat) → Text → Reading (List Json)
  | 0, text => .error (.fault .value text)
  | fuel + 1, text =>
    match readValue fuel text with
    | .error stop => .error stop
    | .ok (item, rest) =>
      match skipSpace rest with
      | ']' :: rest => .ok ([item], rest)
      | ',' :: rest =>
        (readItems fuel (skipSpace rest)).map fun (items, rest) => (item :: items, rest)
      | rest => .error (.fault .comma rest)

/-- Read the fields of an object, as written, up to its closing brace. -/
def readFields : (fuel : Nat) → Text → Reading Fields
  | 0, text => .error (.fault .propertyName text)
  | fuel + 1, text =>
    match text with
    | '"' :: rest =>
      match readString text rest with
      | .error stop => .error stop
      | .ok (key, rest) =>
        match skipSpace rest with
        | ':' :: rest =>
          match readValue fuel (skipSpace rest) with
          | .error stop => .error stop
          | .ok (value, rest) =>
            match skipSpace rest with
            | '\x7d' :: rest => .ok ([(key, value)], rest)
            | ',' :: rest =>
              (readFields fuel (skipSpace rest)).map fun (fields, rest) =>
                ((key, value) :: fields, rest)
            | rest => .error (.fault .comma rest)
        | rest => .error (.fault .colon rest)
    | _ => .error (.fault .propertyName text)

end

/-- Steps that are enough for a text: no step is taken twice before a character is consumed. -/
def enoughFuel (text : Text) : Nat :=
  2 * text.length + 2

/-- Read a whole text as one value with nothing but space around it. -/
def readDocument (text : Text) : Except Stop Json :=
  if Text.startsWith ['\ufeff'] text then .error (.fault .byteOrderMark text)
  else
    match readValue (enoughFuel text) (skipSpace text) with
    | .error stop => .error stop
    | .ok (value, rest) =>
      match skipSpace rest with
      | [] => .ok value
      | rest => .error (.fault .extraData rest)

/-- Read a JSON text. -/
def parse (text : Text) : Except ReadError Json :=
  match readDocument text with
  | .ok value => .ok value
  | .error (.fault fault rest) => .error (.malformed fault (Place.before text rest))
  | .error (.oversized digits) => .error (.oversized digits)

end SafeDelete.Json
