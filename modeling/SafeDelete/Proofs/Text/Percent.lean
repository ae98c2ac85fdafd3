/-
Module: SafeDelete.Proofs.Text.Percent
Purpose: Reading a percent-encoded text, and that it reads back what was encoded.
Main exports: Percent.decode?, Percent.decode?_encode, Percent.encode_injective,
  Percent.isPlain_encode
-/
import SafeDelete.Proofs.Text.Line
import SafeDelete.Proofs.Text.Utf8
import SafeDelete.Text.Percent

namespace SafeDelete.Percent

/-- The octets of a percent-encoded text: one for each percent sign with two hexadecimal digits, and
those of every other character. -/
def decodeBytes : Text → Bytes
  | '%' :: first :: second :: rest =>
    match hexDigitValue? first, hexDigitValue? second with
    | some high, some low => UInt8.ofNat (16 * high + low) :: decodeBytes rest
    | _, _ => String.utf8EncodeChar '%' ++ decodeBytes (first :: second :: rest)
  | c :: rest => String.utf8EncodeChar c ++ decodeBytes rest
  | [] => []

/-- The text that was percent-encoded, if its octets are one. -/
def decode? (text : Text) : Option Text :=
  (Utf8.decode (decodeBytes text)).toOption

/-! ## One octet -/

theorem hexDigitValue?_toUpper_hexDigit {n : Nat} (small : n < 16) :
    hexDigitValue? (hexDigit n).toUpper = some n := by
  have all : ∀ n : Fin 16, hexDigitValue? (hexDigit n).toUpper = some n.val := by decide
  exact all ⟨n, small⟩

/-- An unreserved octet is a character of its own, and no percent sign. -/
theorem isUnreserved_byte (byte : UInt8) (plain : isUnreserved (Char.ofNat byte.toNat) = true) :
    Char.ofNat byte.toNat ≠ '%' ∧ String.utf8EncodeChar (Char.ofNat byte.toNat) = [byte] := by
  have all : ∀ n : Fin 256, isUnreserved (Char.ofNat n) = true →
      Char.ofNat n ≠ '%' ∧ String.utf8EncodeChar (Char.ofNat n) = [UInt8.ofNat n] := by
    decide +kernel
  have here := all ⟨byte.toNat, byte.toNat_lt⟩ plain
  rwa [UInt8.ofNat_toNat] at here

theorem decodeBytes_cons {c : Char} (plain : c ≠ '%') (rest : Text) :
    decodeBytes (c :: rest) = String.utf8EncodeChar c ++ decodeBytes rest := by
  rw [decodeBytes]
  rintro first second behind rfl
  exact absurd rfl plain

theorem decodeBytes_encodeByte (byte : UInt8) (rest : Text) :
    decodeBytes (encodeByte byte ++ rest) = byte :: decodeBytes rest := by
  unfold encodeByte
  dsimp only
  split
  · rename_i plain
    obtain ⟨noPercent, octets⟩ := isUnreserved_byte byte plain
    rw [List.singleton_append, decodeBytes_cons noPercent, octets]
    rfl
  · have high : byte.toNat / 16 % 16 < 16 := Nat.mod_lt _ (by decide)
    have low : byte.toNat % 16 < 16 := Nat.mod_lt _ (by decide)
    have both : 16 * (byte.toNat / 16 % 16) + byte.toNat % 16 = byte.toNat := by
      have := byte.toNat_lt
      omega
    have digits : (hexadecimal 2 byte.toNat).map Char.toUpper =
        [(hexDigit (byte.toNat / 16 % 16)).toUpper, (hexDigit (byte.toNat % 16)).toUpper] := rfl
    rw [digits, List.cons_append, List.cons_append, List.cons_append, List.nil_append, decodeBytes,
      hexDigitValue?_toUpper_hexDigit high, hexDigitValue?_toUpper_hexDigit low]
    dsimp only
    rw [both, UInt8.ofNat_toNat]

/-! ## A whole text -/

theorem decodeBytes_encode (text : Text) : decodeBytes (encode text) = Utf8.encode text := by
  rw [encode]
  induction Utf8.encode text with
  | nil => rfl
  | cons byte rest ih => rw [List.flatMap_cons, decodeBytes_encodeByte, ih]

/-- What was percent-encoded is read back. -/
theorem decode?_encode (text : Text) : decode? (encode text) = some text := by
  rw [decode?, decodeBytes_encode, Utf8.decode_encode]
  rfl

theorem encode_injective {first second : Text} (same : encode first = encode second) :
    first = second := by
  have read := decode?_encode first
  rw [same, decode?_encode] at read
  exact (Option.some.inj read).symm

/-- Nothing in a percent-encoded text ends a line. -/
theorem isPlain_encode (text : Text) : Text.IsPlain (encode text) := by
  have all : ∀ n : Fin 256, Text.IsPlain (encodeByte (UInt8.ofNat n)) := by decide +kernel
  intro c mem
  obtain ⟨byte, -, inByte⟩ := List.mem_flatMap.mp mem
  have here := all ⟨byte.toNat, byte.toNat_lt⟩
  rw [UInt8.ofNat_toNat] at here
  exact here c inByte

theorem newline_not_mem_encode (text : Text) : '\n' ∉ encode text := by
  intro mem
  exact absurd (isPlain_encode text _ mem) (by decide)

end SafeDelete.Percent
