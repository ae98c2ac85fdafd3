/-
Module: SafeDelete.Proofs.Text.Utf8
Purpose: Octets are read as a text exactly if they are that text written in UTF-8.
Main exports: Utf8.pieces_encodeChar, Utf8.decode_encode, Utf8.opensWith_of_collect,
  Utf8.decode_eq_ok_iff
-/
import SafeDelete.Text.Utf8

namespace SafeDelete.Utf8

/-!
The octets of a character are first tried one by one: what the first of them opens, and what one
that continues a character does.  A character is then read in as many steps as it has octets.
-/

variable {byte first : UInt8} {rest : Bytes} {position low high code length : Nat}

theorem toNat_ofNat_of_lt {n : Nat} (small : n < 256) : (UInt8.ofNat n).toNat = n := by
  rw [UInt8.toNat_ofNat']
  exact Nat.mod_eq_of_lt small

/-! ## One octet -/

theorem pieces_whole {c : Char} (opens : opening byte = .whole c) :
    pieces position none (byte :: rest) = .char c :: pieces (position + 1) none rest := by
  rw [pieces, opens]

theorem pieces_more {pending : Pending} (opens : opening byte = .more pending) :
    pieces position none (byte :: rest) = pieces (position + 1) (some pending) rest := by
  rw [pieces, opens]

/-- The last octet of a character completes it. -/
theorem pieces_last (least : low ≤ byte.toNat) (most : byte.toNat ≤ high) :
    pieces position (some ⟨0, low, high, code, first, length⟩) (byte :: rest) =
      .char (Char.ofNat (64 * code + (byte.toNat - 0x80))) :: pieces (position + 1) none rest := by
  rw [pieces]
  simp only [least, most, and_self, if_true]

theorem pieces_next {owed : Nat} (least : low ≤ byte.toNat) (most : byte.toNat ≤ high) :
    pieces position (some ⟨owed + 1, low, high, code, first, length⟩) (byte :: rest) =
      pieces (position + 1)
        (some ⟨owed, 0x80, 0xBF, 64 * code + (byte.toNat - 0x80), first, length + 1⟩) rest := by
  rw [pieces]
  simp only [least, most, and_self, if_true]

theorem opening_one (few : code < 0x80) :
    opening (UInt8.ofNat code) = .whole (Char.ofNat code) := by
  have byte := @toNat_ofNat_of_lt code (by omega)
  simp only [opening, byte, if_pos few]

theorem opening_two (least : 0x80 ≤ code) (few : code < 0x800) :
    opening (UInt8.ofNat (code / 64 % 32 + 192)) =
      .more ⟨0, 0x80, 0xBF, code / 64, UInt8.ofNat (code / 64 % 32 + 192), 1⟩ := by
  have byte := @toNat_ofNat_of_lt (code / 64 % 32 + 192) (by omega)
  have start : code / 64 % 32 + 192 - 0xC0 = code / 64 := by omega
  simp only [opening, byte]
  rw [if_neg (by omega), if_neg (by omega), if_pos (by omega), start]

/-- The first octet of a longer character bounds the second one, so that no character has two
forms. -/
theorem opening_three (least : 0x800 ≤ code) (few : code < 0x10000)
    (scalar : code < 0xD800 ∨ 0xDFFF < code) :
    ∃ low high, opening (UInt8.ofNat (code / 4096 % 16 + 224)) =
        .more ⟨1, low, high, code / 4096, UInt8.ofNat (code / 4096 % 16 + 224), 1⟩ ∧
      low ≤ code / 64 % 64 + 128 ∧ code / 64 % 64 + 128 ≤ high := by
  have byte := @toNat_ofNat_of_lt (code / 4096 % 16 + 224) (by omega)
  have start : code / 4096 % 16 + 224 - 0xE0 = code / 4096 := by omega
  simp only [opening, byte]
  rw [if_neg (by omega), if_neg (by omega), if_neg (by omega)]
  by_cases first : code / 4096 % 16 + 224 = 0xE0
  · rw [if_pos first, show code / 4096 = 0 by omega]
    exact ⟨_, _, rfl, by omega, by omega⟩
  by_cases surrogate : code / 4096 % 16 + 224 = 0xED
  · rw [if_neg first, if_pos surrogate, show code / 4096 = 0xD by omega]
    exact ⟨_, _, rfl, by omega, by omega⟩
  · rw [if_neg first, if_neg surrogate, if_pos (by omega), start]
    exact ⟨_, _, rfl, by omega, by omega⟩

theorem opening_four (least : 0x10000 ≤ code) (few : code < 0x110000) :
    ∃ low high, opening (UInt8.ofNat (code / 262144 % 8 + 240)) =
        .more ⟨2, low, high, code / 262144, UInt8.ofNat (code / 262144 % 8 + 240), 1⟩ ∧
      low ≤ code / 4096 % 64 + 128 ∧ code / 4096 % 64 + 128 ≤ high := by
  have byte := @toNat_ofNat_of_lt (code / 262144 % 8 + 240) (by omega)
  have start : code / 262144 % 8 + 240 - 0xF0 = code / 262144 := by omega
  simp only [opening, byte]
  rw [if_neg (by omega), if_neg (by omega), if_neg (by omega), if_neg (by omega),
    if_neg (by omega), if_neg (by omega)]
  by_cases first : code / 262144 % 8 + 240 = 0xF0
  · rw [if_pos first, show code / 262144 = 0 by omega]
    exact ⟨_, _, rfl, by omega, by omega⟩
  by_cases middle : code / 262144 % 8 + 240 < 0xF4
  · rw [if_neg first, if_pos middle, start]
    exact ⟨_, _, rfl, by omega, by omega⟩
  · rw [if_neg first, if_neg middle, if_pos (by omega), show code / 262144 = 4 by omega]
    exact ⟨_, _, rfl, by omega, by omega⟩

theorem toNat_continuing (n : Nat) : (UInt8.ofNat (n % 64 + 128)).toNat = n % 64 + 128 :=
  toNat_ofNat_of_lt (by omega)

/-! ## One character -/

/-- The octets of a character are read as that character. -/
theorem pieces_encodeChar (c : Char) (position : Nat) (rest : Bytes) :
    pieces position none (String.utf8EncodeChar c ++ rest) =
      .char c :: pieces (position + (String.utf8EncodeChar c).length) none rest := by
  have scalar : c.val.toNat < 0xD800 ∨ (0xDFFF < c.val.toNat ∧ c.val.toNat < 0x110000) := c.valid
  have whole : Char.ofNat c.val.toNat = c := Char.ofNat_toNat c
  rw [String.utf8EncodeChar]
  generalize c.val.toNat = code at scalar whole ⊢
  by_cases one : code ≤ 127
  · rw [if_pos one, List.singleton_append, pieces_whole (opening_one (by omega)), whole]
    rfl
  by_cases two : code ≤ 2047
  · have last := toNat_continuing code
    rw [if_neg one, if_pos two, List.cons_append, List.singleton_append,
      pieces_more (opening_two (by omega) (by omega)),
      pieces_last (by rw [last]; omega) (by rw [last]; omega), last,
      show 64 * (code / 64) + (code % 64 + 128 - 0x80) = code by omega, whole]
    rfl
  by_cases three : code ≤ 65535
  · obtain ⟨low, high, opens, least, most⟩ := opening_three (by omega) (by omega)
      (scalar.imp_right And.left)
    have second := toNat_continuing (code / 64)
    have last := toNat_continuing code
    rw [if_neg one, if_neg two, if_pos three, List.cons_append, List.cons_append,
      List.singleton_append, pieces_more opens,
      pieces_next (by rw [second]; exact least) (by rw [second]; exact most),
      pieces_last (by rw [last]; omega) (by rw [last]; omega), second, last]
    have sum : 64 * (64 * (code / 4096) + (code / 64 % 64 + 128 - 0x80)) +
        (code % 64 + 128 - 0x80) = code := by omega
    rw [sum, whole]
    rfl
  · obtain ⟨low, high, opens, least, most⟩ := @opening_four code (by omega) (by omega)
    have second := toNat_continuing (code / 4096)
    have third := toNat_continuing (code / 64)
    have last := toNat_continuing code
    rw [if_neg one, if_neg two, if_neg three, List.cons_append, List.cons_append, List.cons_append,
      List.singleton_append, pieces_more opens,
      pieces_next (by rw [second]; exact least) (by rw [second]; exact most),
      pieces_next (by rw [third]; omega) (by rw [third]; omega),
      pieces_last (by rw [last]; omega) (by rw [last]; omega), second, third, last]
    have sum : 64 * (64 * (64 * (code / 262144) + (code / 4096 % 64 + 128 - 0x80)) +
        (code / 64 % 64 + 128 - 0x80)) + (code % 64 + 128 - 0x80) = code := by omega
    rw [sum, whole]
    rfl

theorem pieces_encode (text : Text) (position : Nat) :
    pieces position none (encode text) = text.map .char := by
  induction text generalizing position with
  | nil => rfl
  | cons c rest ih =>
      rw [encode, List.flatMap_cons, pieces_encodeChar, ← encode, ih, List.map_cons]

/-- A text that is written in UTF-8 is read back. -/
theorem decode_encode (text : Text) : decode (encode text) = .ok text := by
  rw [decode, pieces_encode]
  induction text with
  | nil => rfl
  | cons c rest ih =>
      rw [List.map_cons, collect, ih]
      rfl

theorem encode_append (front back : Text) : encode (front ++ back) = encode front ++ encode back :=
  List.flatMap_append

/-! ## What is read was written -/

variable {bytes : Bytes} {text : Text}

theorem toNat_char (valid : code.isValidChar) : (Char.ofNat code).val.toNat = code := by
  rw [Char.ofNat, dif_pos valid]
  exact UInt32.toNat_ofNatLT ..

/-- Inside a character, the next octet lies between the bounds. -/
theorem exists_of_collect_some {pending : Pending}
    (read : collect (pieces position (some pending) bytes) = .ok text) :
    ∃ byte rest, bytes = byte :: rest ∧ pending.low ≤ byte.toNat ∧ byte.toNat ≤ pending.high := by
  cases bytes with
  | nil => contradiction
  | cons byte rest =>
      by_cases within : pending.low ≤ byte.toNat ∧ byte.toNat ≤ pending.high
      · exact ⟨byte, rest, rfl, within⟩
      · rw [pieces] at read
        simp only [if_neg within] at read
        contradiction

theorem collect_char {c : Char} {later : List Piece}
    (read : collect (.char c :: later) = .ok text) :
    ∃ row, text = c :: row ∧ collect later = .ok row := by
  rw [collect] at read
  cases rest : collect later with
  | error fault =>
      rw [rest] at read
      contradiction
  | ok row =>
      rw [rest] at read
      exact ⟨row, (Except.ok.inj read).symm, rfl⟩

/-- The last octet of a character. -/
theorem exists_of_collect_last
    (read : collect (pieces position (some ⟨0, low, high, code, first, length⟩) bytes) = .ok text) :
    ∃ byte rest row, bytes = byte :: rest ∧ low ≤ byte.toNat ∧ byte.toNat ≤ high ∧
      text = Char.ofNat (64 * code + (byte.toNat - 0x80)) :: row ∧
      collect (pieces (position + 1) none rest) = .ok row := by
  obtain ⟨byte, rest, rfl, least, most⟩ := exists_of_collect_some read
  rw [pieces_last least most] at read
  obtain ⟨row, eq, later⟩ := collect_char read
  exact ⟨byte, rest, row, rfl, least, most, eq, later⟩

theorem exists_of_collect_next {owed : Nat}
    (read : collect (pieces position (some ⟨owed + 1, low, high, code, first, length⟩) bytes) =
      .ok text) :
    ∃ byte rest, bytes = byte :: rest ∧ low ≤ byte.toNat ∧ byte.toNat ≤ high ∧
      collect (pieces (position + 1) (some ⟨owed, 0x80, 0xBF,
        64 * code + (byte.toNat - 0x80), first, length + 1⟩) rest) = .ok text := by
  obtain ⟨byte, rest, rfl, least, most⟩ := exists_of_collect_some read
  rw [pieces_next least most] at read
  exact ⟨byte, rest, rfl, least, most, read⟩

theorem ofNat_eq (byte : UInt8) {n : Nat} (same : n = byte.toNat) : UInt8.ofNat n = byte := by
  rw [same, UInt8.ofNat_toNat]

/-- What the first octet of three opens: the bounds of the second one shut out short forms and
surrogates. -/
theorem exists_opening_three (least : 0xE0 ≤ byte.toNat) (most : byte.toNat < 0xF0) :
    ∃ low high, opening byte = .more ⟨1, low, high, byte.toNat - 0xE0, byte, 1⟩ ∧
      0x80 ≤ low ∧ high ≤ 0xBF ∧ (byte.toNat = 0xE0 → 0xA0 ≤ low) ∧
      (byte.toNat = 0xED → high ≤ 0x9F) := by
  simp only [opening]
  rw [if_neg (by omega), if_neg (by omega), if_neg (by omega)]
  by_cases short : byte.toNat = 0xE0
  · rw [if_pos short, short]
    exact ⟨_, _, rfl, by omega, by omega, by omega, by omega⟩
  by_cases surrogate : byte.toNat = 0xED
  · rw [if_neg short, if_pos surrogate, surrogate]
    exact ⟨_, _, rfl, by omega, by omega, by omega, by omega⟩
  · rw [if_neg short, if_neg surrogate, if_pos most]
    exact ⟨_, _, rfl, by omega, by omega, by omega, by omega⟩

theorem exists_opening_four (least : 0xF0 ≤ byte.toNat) (most : byte.toNat < 0xF5) :
    ∃ low high, opening byte = .more ⟨2, low, high, byte.toNat - 0xF0, byte, 1⟩ ∧
      0x80 ≤ low ∧ high ≤ 0xBF ∧ (byte.toNat = 0xF0 → 0x90 ≤ low) ∧
      (byte.toNat = 0xF4 → high ≤ 0x8F) := by
  simp only [opening]
  rw [if_neg (by omega), if_neg (by omega), if_neg (by omega), if_neg (by omega),
    if_neg (by omega), if_neg (by omega)]
  by_cases short : byte.toNat = 0xF0
  · rw [if_pos short, short]
    exact ⟨_, _, rfl, by omega, by omega, by omega, by omega⟩
  by_cases beyond : byte.toNat < 0xF4
  · rw [if_neg short, if_pos beyond]
    exact ⟨_, _, rfl, by omega, by omega, by omega, by omega⟩
  · have last : byte.toNat = 0xF4 := by omega
    rw [if_neg short, if_neg beyond, if_pos last, last]
    exact ⟨_, _, rfl, by omega, by omega, by omega, by omega⟩

theorem opening_bad (bad : (0x80 ≤ byte.toNat ∧ byte.toNat < 0xC2) ∨ 0xF5 ≤ byte.toNat) :
    opening byte = .bad := by
  simp only [opening]
  rcases bad with low | high
  · rw [if_neg (by omega), if_pos (by omega)]
  · rw [if_neg (by omega), if_neg (by omega), if_neg (by omega), if_neg (by omega),
      if_neg (by omega), if_neg (by omega), if_neg (by omega), if_neg (by omega),
      if_neg (by omega)]

/-- One character is at the front of what is read, and in its octets at the front of the octets. -/
def OpensWith (bytes : Bytes) (text : Text) : Prop :=
  ∃ c row rest later, bytes = String.utf8EncodeChar c ++ rest ∧ text = c :: row ∧
    collect (pieces later none rest) = .ok row

theorem opensWith_one (few : byte.toNat < 0x80)
    (read : collect (pieces position none (byte :: bytes)) = .ok text) :
    OpensWith (byte :: bytes) text := by
  have opens : opening byte = .whole (Char.ofNat byte.toNat) := by
    simp only [opening, if_pos few]
  rw [pieces_whole opens] at read
  obtain ⟨row, rfl, later⟩ := collect_char read
  refine ⟨_, row, bytes, _, ?_, rfl, later⟩
  rw [String.utf8EncodeChar, toNat_char (.inl (by omega)), if_pos (by omega), UInt8.ofNat_toNat]
  rfl

theorem opensWith_two (least : 0xC2 ≤ byte.toNat) (few : byte.toNat < 0xE0)
    (read : collect (pieces position none (byte :: bytes)) = .ok text) :
    OpensWith (byte :: bytes) text := by
  have opens : opening byte = .more ⟨0, 0x80, 0xBF, byte.toNat - 0xC0, byte, 1⟩ := by
    simp only [opening]
    rw [if_neg (by omega), if_neg (by omega), if_pos few]
  rw [pieces_more opens] at read
  obtain ⟨last, rest, row, rfl, least, most, rfl, later⟩ := exists_of_collect_last read
  refine ⟨_, row, rest, _, ?_, rfl, later⟩
  rw [String.utf8EncodeChar, toNat_char (.inl (by omega)), if_neg (by omega), if_pos (by omega),
    ofNat_eq byte (by omega), ofNat_eq last (by omega)]
  rfl

theorem opensWith_three (least : 0xE0 ≤ byte.toNat) (few : byte.toNat < 0xF0)
    (read : collect (pieces position none (byte :: bytes)) = .ok text) :
    OpensWith (byte :: bytes) text := by
  obtain ⟨low, high, opens, bounds⟩ := exists_opening_three least few
  rw [pieces_more opens] at read
  obtain ⟨second, rest, rfl, least, most, next⟩ := exists_of_collect_next read
  obtain ⟨last, rest, row, rfl, leastLast, mostLast, rfl, later⟩ := exists_of_collect_last next
  refine ⟨_, row, rest, _, ?_, rfl, later⟩
  rw [String.utf8EncodeChar, toNat_char (by unfold Nat.isValidChar; omega), if_neg (by omega),
    if_neg (by omega), if_pos (by omega), ofNat_eq byte (by omega), ofNat_eq second (by omega),
    ofNat_eq last (by omega)]
  rfl

theorem opensWith_four (least : 0xF0 ≤ byte.toNat) (few : byte.toNat < 0xF5)
    (read : collect (pieces position none (byte :: bytes)) = .ok text) :
    OpensWith (byte :: bytes) text := by
  obtain ⟨low, high, opens, bounds⟩ := exists_opening_four least few
  rw [pieces_more opens] at read
  obtain ⟨second, rest, rfl, least, most, next⟩ := exists_of_collect_next read
  obtain ⟨third, rest, rfl, leastThird, mostThird, next⟩ := exists_of_collect_next next
  obtain ⟨last, rest, row, rfl, leastLast, mostLast, rfl, later⟩ := exists_of_collect_last next
  refine ⟨_, row, rest, _, ?_, rfl, later⟩
  rw [String.utf8EncodeChar, toNat_char (by unfold Nat.isValidChar; omega), if_neg (by omega),
    if_neg (by omega), if_neg (by omega), ofNat_eq byte (by omega), ofNat_eq second (by omega),
    ofNat_eq third (by omega), ofNat_eq last (by omega)]
  rfl

theorem opensWith_of_collect (read : collect (pieces position none (byte :: bytes)) = .ok text) :
    OpensWith (byte :: bytes) text := by
  by_cases one : byte.toNat < 0x80
  · exact opensWith_one one read
  by_cases bad : (0x80 ≤ byte.toNat ∧ byte.toNat < 0xC2) ∨ 0xF5 ≤ byte.toNat
  · rw [pieces, opening_bad bad] at read
    contradiction
  by_cases two : byte.toNat < 0xE0
  · exact opensWith_two (by omega) two read
  by_cases three : byte.toNat < 0xF0
  · exact opensWith_three (by omega) three read
  · exact opensWith_four (by omega) (by omega) read

theorem encode_of_collect (text : Text) (bytes : Bytes) (position : Nat)
    (read : collect (pieces position none bytes) = .ok text) : bytes = encode text := by
  -- The induction is on the text, since every character takes at least one octet off the front.
  induction text generalizing bytes position with
  | nil =>
      cases bytes with
      | nil => rfl
      | cons byte rest =>
          obtain ⟨c, row, rest, later, -, eq, -⟩ := opensWith_of_collect read
          contradiction
  | cons c text ih =>
      cases bytes with
      | nil => exact absurd (Except.ok.inj read) (List.cons_ne_nil _ _).symm
      | cons byte rest =>
          obtain ⟨d, row, rest, later, eq, same, read⟩ := opensWith_of_collect read
          obtain ⟨rfl, rfl⟩ := List.cons.inj same
          rw [eq, ih rest later read, encode, encode, List.flatMap_cons]

/-- Octets are read as a text exactly if they are what is written for it. -/
theorem decode_eq_ok_iff : decode bytes = .ok text ↔ bytes = encode text := by
  constructor
  · intro read
    exact encode_of_collect text bytes 0 read
  · rintro rfl
    exact decode_encode text

end SafeDelete.Utf8
