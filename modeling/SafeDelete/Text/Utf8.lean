/-
Module: SafeDelete.Text.Utf8
Purpose: UTF-8: writing a text as octets, and reading octets as a text, strictly or leniently.
Main exports: Utf8.encode, Utf8.decode, Utf8.decodeLossy, Utf8.Fault, Utf8.Fault.message
-/
import SafeDelete.Text.Numeral

namespace SafeDelete.Utf8

/-!
The reader is a machine that takes one octet at a time.  Inside a character it knows how many
continuation octets are still owed and between which bounds the next one must lie; the bounds
shut out overlong forms, surrogates and code points above the last one.  Where a character breaks
off, the octets read of it form one fault, and the octet that broke it is read afresh.
-/

/-- A text as octets. -/
def encode (text : Text) : Bytes :=
  text.flatMap String.utf8EncodeChar

/-- Why a sequence of octets is not a character. -/
inductive Cause where
  | startByte
  | continuationByte
  | endOfData
  deriving Repr, DecidableEq

/-- Octets that no character accounts for: what is wrong, where, the first octet and how many. -/
structure Fault where
  cause : Cause
  position : Nat
  first : UInt8
  length : Nat
  deriving Repr, DecidableEq

/-- A character of which some octets have been read. -/
structure Pending where
  /-- Octets still owed, less one. -/
  owed : Nat
  /-- The least octet that may follow. -/
  low : Nat
  /-- The greatest octet that may follow. -/
  high : Nat
  /-- The code point as far as it is known. -/
  code : Nat
  /-- The first octet of the character. -/
  first : UInt8
  /-- Octets read. -/
  length : Nat
  deriving Repr, DecidableEq

/-- What a first octet begins: a character of its own, a longer one, or nothing. -/
inductive Opening where
  | whole (c : Char)
  | more (p : Pending)
  | bad
  deriving Repr, DecidableEq

/-- Read the first octet of a character. -/
def opening (byte : UInt8) : Opening :=
  let b := byte.toNat
  if b < 0x80 then .whole (Char.ofNat b)
  else if b < 0xC2 then .bad
  else if b < 0xE0 then .more ⟨0, 0x80, 0xBF, b - 0xC0, byte, 1⟩
  else if b = 0xE0 then .more ⟨1, 0xA0, 0xBF, 0, byte, 1⟩
  else if b = 0xED then .more ⟨1, 0x80, 0x9F, 0xD, byte, 1⟩
  else if b < 0xF0 then .more ⟨1, 0x80, 0xBF, b - 0xE0, byte, 1⟩
  else if b = 0xF0 then .more ⟨2, 0x90, 0xBF, 0, byte, 1⟩
  else if b < 0xF4 then .more ⟨2, 0x80, 0xBF, b - 0xF0, byte, 1⟩
  else if b = 0xF4 then .more ⟨2, 0x80, 0x8F, 4, byte, 1⟩
  else .bad

/-- One step of the reading: a character, or a fault. -/
inductive Piece where
  | char (c : Char)
  | fault (f : Fault)
  deriving Repr, DecidableEq

/-- Read octets from `position` on, perhaps inside a character. -/
def pieces (position : Nat) : Option Pending → Bytes → List Piece
  | none, [] => []
  | some p, [] => [.fault ⟨.endOfData, position - p.length, p.first, p.length⟩]
  | none, byte :: rest =>
    match opening byte with
    | .whole c => .char c :: pieces (position + 1) none rest
    | .more p => pieces (position + 1) (some p) rest
    | .bad => .fault ⟨.startByte, position, byte, 1⟩ :: pieces (position + 1) none rest
  | some p, byte :: rest =>
    let b := byte.toNat
    if p.low ≤ b ∧ b ≤ p.high then
      let code := 64 * p.code + (b - 0x80)
      match p.owed with
      | 0 => .char (Char.ofNat code) :: pieces (position + 1) none rest
      | owed + 1 =>
        pieces (position + 1) (some ⟨owed, 0x80, 0xBF, code, p.first, p.length + 1⟩) rest
    else
      .fault ⟨.continuationByte, position - p.length, p.first, p.length⟩ ::
        match opening byte with
        | .whole c => .char c :: pieces (position + 1) none rest
        | .more p => pieces (position + 1) (some p) rest
        | .bad => .fault ⟨.startByte, position, byte, 1⟩ :: pieces (position + 1) none rest

/-- The text before the first fault, or that fault. -/
def collect : List Piece → Except Fault Text
  | [] => .ok []
  | .char c :: rest => (collect rest).map (c :: ·)
  | .fault f :: _ => .error f

/-- Read octets as a text; the first fault refuses all of it. -/
def decode (bytes : Bytes) : Except Fault Text :=
  collect (pieces 0 none bytes)

/-- Read octets as a text, with one replacement character for each fault. -/
def decodeLossy (bytes : Bytes) : Text :=
  (pieces 0 none bytes).map fun
    | .char c => c
    | .fault _ => Char.ofNat 0xFFFD

/-- The wording of a cause. -/
def Cause.message : Cause → Text
  | .startByte => "invalid start byte"
  | .continuationByte => "invalid continuation byte"
  | .endOfData => "unexpected end of data"

/-- The wording of a fault: which octets are at fault and why. -/
def Fault.message (fault : Fault) : Text :=
  let octets : Text :=
    if fault.length = 1 then
      "byte 0x" ++ hexadecimal 2 fault.first.toNat ++ " in position " ++ decimal fault.position
    else
      "bytes in position " ++ decimal fault.position ++ "-" ++
        decimal (fault.position + fault.length - 1)
  "'utf-8' codec can't decode " ++ octets ++ ": " ++ fault.cause.message

end SafeDelete.Utf8
