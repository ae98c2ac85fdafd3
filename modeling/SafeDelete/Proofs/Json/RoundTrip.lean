/-
Module: SafeDelete.Proofs.Json.RoundTrip
Purpose: A value on its line is read back, and whatever is read can be written.
Main exports: Json.isPlainLine_render, Json.parse_render, Json.parse_renderString,
  Json.isReadable_of_parse, Json.parse_of_oversized
-/
import Mathlib.Data.List.TakeWhile
import SafeDelete.Proofs.Json.Numeral
import SafeDelete.Proofs.Json.Readable

namespace SafeDelete.Json

open Binary64

/-!
Reading takes fuel, and a reader is asked for more only behind a character that it consumed.  So
twice the length of what is written is enough for a value, and one step more for a list of values,
whose reader steps once before its first character.
-/

variable {c : Char} {fuel : Nat} {row rest : Text}

/-! ## What is written -/

theorem isPlainLine_join {separator : Text} (plain : IsPlainLine separator) {parts : List Text}
    (all : ∀ part ∈ parts, IsPlainLine part) : IsPlainLine (Text.join separator parts) := by
  induction parts with
  | nil => exact List.forall_mem_nil _
  | cons part later ih =>
      have ⟨first, others⟩ := List.forall_mem_cons.mp all
      cases later with
      | nil => exact first
      | cons next later =>
          exact isPlainLine_append.mpr ⟨isPlainLine_append.mpr ⟨first, plain⟩, ih others⟩

theorem isPlainLine_enclosed {left right : Char} (marks : IsPlainLine [left, right])
    {parts : List Text} (all : ∀ part ∈ parts, IsPlainLine part) :
    IsPlainLine (left :: Text.join ", " parts ++ [right]) := by
  obtain ⟨opening, closing⟩ := isPlainLine_cons.mp marks
  apply isPlainLine_append.mpr
  refine ⟨isPlainLine_cons.mpr ⟨opening, ?_⟩, closing⟩
  exact isPlainLine_join (by decide) all

mutual

/-- A value is written on one line of printed ASCII characters. -/
theorem isPlainLine_render : ∀ value : Json, value.IsReadable → IsPlainLine (render value)
  | .null, _ => by decide
  | .bool true, _ => by decide
  | .bool false, _ => by decide
  | .int _, short => by
      obtain ⟨_, _, written⟩ := exists_isWrittenAs_int short
      exact written.isPlainLine
  | .float .nan, _ => by decide
  | .float (.infinity true), _ => by decide
  | .float (.infinity false), _ => by decide
  | .float (.finite _ _ _), canonical => by
      obtain ⟨_, written⟩ := exists_isWrittenAs_finite canonical
      exact written.isPlainLine
  | .str text, _ => isPlainLine_renderString text
  | .arr items, readable =>
      isPlainLine_enclosed (by decide) (isPlainLine_renderItems items readable)
  | .obj fields, readable =>
      isPlainLine_enclosed (by decide) (isPlainLine_renderFields fields readable.2)

theorem isPlainLine_renderItems : ∀ items : List Json, AreReadable items →
    ∀ part ∈ renderItems items, IsPlainLine part
  | [], _ => List.forall_mem_nil _
  | item :: items, readable =>
      List.forall_mem_cons.mpr
        ⟨isPlainLine_render item readable.1, isPlainLine_renderItems items readable.2⟩

theorem isPlainLine_renderFields : ∀ fields : List (Text × Json), HaveReadable fields →
    ∀ part ∈ renderFields fields, IsPlainLine part
  | [], _ => List.forall_mem_nil _
  | (key, value) :: fields, readable => by
      refine List.forall_mem_cons.mpr ⟨?_, isPlainLine_renderFields fields readable.2⟩
      apply isPlainLine_append.mpr
      refine ⟨isPlainLine_append.mpr ⟨isPlainLine_renderString key, by decide⟩, ?_⟩
      exact isPlainLine_render value readable.1

end

/-- The characters between values and behind them. -/
def between : List Char := [' ', '\t', '\n', '\r', ',', ']', '\x7d']

theorem not_mem_between_of_isDigit (digit : c.isDigit = true) : c ∉ between := by
  intro mem
  have all : ∀ d ∈ between, d.isDigit = false := by simp [between]
  exact Bool.false_ne_true ((all c mem).symm.trans digit)

theorem IsWrittenAs.exists_opening {number : Json} {negative : Bool} {parts : Parts}
    (written : IsWrittenAs number negative parts) :
    ∃ c row, render number = c :: row ∧ c ∉ between := by
  obtain ⟨digit, row, isDigit, eq⟩ := written.exists_digit
  cases negative with
  | false => exact ⟨digit, row, eq, not_mem_between_of_isDigit isDigit⟩
  | true => exact ⟨'-', digit :: row, eq, by decide⟩

/-- What is written for a value begins with something that is not between values. -/
theorem exists_opening {value : Json} (readable : value.IsReadable) :
    ∃ c row, render value = c :: row ∧ c ∉ between := by
  cases value with
  | null => exact ⟨_, _, rfl, by decide⟩
  | bool value => cases value <;> exact ⟨_, _, rfl, by decide⟩
  | int value =>
      obtain ⟨_, _, written⟩ := exists_isWrittenAs_int readable
      exact written.exists_opening
  | float value =>
      cases value with
      | nan => exact ⟨_, _, rfl, by decide⟩
      | infinity negative => cases negative <;> exact ⟨_, _, rfl, by decide⟩
      | finite negative significand exponent =>
          obtain ⟨_, written⟩ := exists_isWrittenAs_finite readable
          exact written.exists_opening
  | str text => exact ⟨_, _, rfl, by decide⟩
  | arr items => exact ⟨_, _, rfl, by decide⟩
  | obj fields => exact ⟨_, _, rfl, by decide⟩

/-! ## Values without parts -/

theorem mem_between_of_isSpace (space : isSpace c = true) : c ∈ between := by
  simp only [isSpace, Bool.or_eq_true, beq_iff_eq] at space
  rcases space with ((rfl | rfl) | rfl) | rfl
  all_goals decide

theorem skipSpace_cons (solid : c ∉ between) : skipSpace (c :: row) = c :: row :=
  List.dropWhile_cons_of_neg fun space => solid (mem_between_of_isSpace space)

theorem skipSpace_render_append {value : Json} (readable : value.IsReadable) (rest : Text) :
    skipSpace (render value ++ rest) = render value ++ rest := by
  obtain ⟨c, row, eq, solid⟩ := exists_opening readable
  rw [eq, List.cons_append, skipSpace_cons solid]

theorem ne_of_isDigit {digit : Char} (isDigit : digit.isDigit = true) (other : c.isDigit = false) :
    c ≠ digit := by
  rintro rfl
  exact Bool.false_ne_true (other.symm.trans isDigit)

/-- No word that is a value begins as a number does. -/
theorem readLiteral?_number (negative : Bool) {digit : Char} (isDigit : digit.isDigit = true)
    (row : Text) : readLiteral? (sign negative ++ digit :: row) = none := by
  have apart : ∀ c, c.isDigit = false → (c == digit) = false := fun c other =>
    beq_false_of_ne (ne_of_isDigit isDigit other)
  rw [readLiteral?, Option.map_eq_none_iff, List.find?_eq_none]
  intro literal mem
  simp only [literals, List.mem_cons, List.not_mem_nil, or_false] at mem
  rcases mem with rfl | rfl | rfl | rfl | rfl | rfl
  all_goals
    cases negative
    all_goals simp [Text.startsWith, sign, List.isPrefixOf_cons_cons, apart]

theorem readValue_readScalar (notString : c ≠ '"') (notArray : c ≠ '[') (notObject : c ≠ '\x7b') :
    readValue (fuel + 1) (c :: row) = readScalar (c :: row) := by
  rw [readValue]
  all_goals simp [notString, notArray, notObject]

theorem readValue_number {number : Json} {negative : Bool} {parts : Parts}
    (written : IsWrittenAs number negative parts) (ends : EndsNumber rest) :
    readValue (fuel + 1) (render number ++ rest) = .ok (number, rest) := by
  obtain ⟨digit, row, isDigit, eq⟩ := written.exists_digit
  have scalar : readScalar (render number ++ rest) = .ok (number, rest) := by
    have none : readLiteral? (render number ++ rest) = none := by
      rw [eq, List.append_assoc]
      exact readLiteral?_number negative isDigit _
    rw [readScalar, none, written.readNumber?_eq ends]
  rw [← scalar, eq]
  cases negative with
  | true => exact readValue_readScalar (by decide) (by decide) (by decide)
  | false =>
      exact readValue_readScalar (ne_of_isDigit isDigit rfl).symm (ne_of_isDigit isDigit rfl).symm
        (ne_of_isDigit isDigit rfl).symm

theorem renderString_append (text rest : Text) :
    renderString text ++ rest = '"' :: (text.flatMap renderChar ++ '"' :: rest) := by
  simp [renderString]

theorem readValue_renderString (text rest : Text) :
    readValue (fuel + 1) (renderString text ++ rest) = .ok (.str text, rest) := by
  rw [renderString_append, readValue, readString_written]
  rfl

/-! ## Values with parts -/

theorem endsNumber_mark (mark : c ∈ between) (rest : Text) : EndsNumber (c :: rest) := by
  have all : ∀ d ∈ between, d.isDigit = false ∧ d ≠ '.' ∧ d ≠ 'e' ∧ d ≠ 'E' := by simp [between]
  intro d head
  obtain rfl := Option.some.inj head
  exact all c mark

theorem skipSpace_mark (mark : isSpace c = false) (row : Text) : skipSpace (c :: row) = c :: row :=
  List.dropWhile_cons_of_neg (Bool.eq_false_iff.mp mark)

theorem readItems_bracket {text : Text} {item : Json}
    (read : readValue fuel text = .ok (item, ']' :: rest)) :
    readItems (fuel + 1) text = .ok ([item], rest) := by
  rw [readItems, read]
  simp only [skipSpace_mark (c := ']') rfl]

theorem readItems_comma {text later : Text} {item : Json} {items : List Json}
    (read : readValue fuel text = .ok (item, ',' :: ' ' :: later)) (solid : skipSpace later = later)
    (readLater : readItems fuel later = .ok (items, rest)) :
    readItems (fuel + 1) text = .ok (item :: items, rest) := by
  have skip : skipSpace (' ' :: later) = later := solid
  rw [readItems, read]
  simp only [skipSpace_mark (c := ',') rfl, skip, readLater]
  rfl

theorem readFields_brace {text key : Text} {value : Json} (solid : skipSpace text = text)
    (read : readValue fuel text = .ok (value, '\x7d' :: rest)) :
    readFields (fuel + 1) (renderString key ++ (':' :: ' ' :: text)) =
      .ok ([(key, value)], rest) := by
  have skip : skipSpace (' ' :: text) = text := solid
  rw [renderString_append, readFields, readString_written]
  simp only [skipSpace_mark (c := ':') rfl, skip, read, skipSpace_mark (c := '\x7d') rfl]

theorem readFields_comma {text later key : Text} {value : Json} {fields : Fields}
    (solid : skipSpace text = text)
    (read : readValue fuel text = .ok (value, ',' :: ' ' :: later))
    (solidLater : skipSpace later = later)
    (readLater : readFields fuel later = .ok (fields, rest)) :
    readFields (fuel + 1) (renderString key ++ (':' :: ' ' :: text)) =
      .ok ((key, value) :: fields, rest) := by
  have skip : skipSpace (' ' :: text) = text := solid
  have skipLater : skipSpace (' ' :: later) = later := solidLater
  rw [renderString_append, readFields, readString_written]
  simp only [skipSpace_mark (c := ':') rfl, skip, read, skipSpace_mark (c := ',') rfl, skipLater,
    readLater]
  rfl

/-- The items of an array as they are written, up to its closing bracket. -/
def itemsText (items : List Json) (rest : Text) : Text :=
  Text.join ", " (renderItems items) ++ ']' :: rest

/-- The fields of an object as they are written, up to its closing brace. -/
def fieldsText (fields : Fields) (rest : Text) : Text :=
  Text.join ", " (renderFields fields) ++ '\x7d' :: rest

theorem itemsText_singleton (item : Json) (rest : Text) :
    itemsText [item] rest = render item ++ ']' :: rest :=
  rfl

theorem itemsText_cons (item next : Json) (items : List Json) (rest : Text) :
    itemsText (item :: next :: items) rest =
      render item ++ ',' :: ' ' :: itemsText (next :: items) rest := by
  simp [itemsText, renderItems, Text.join]

theorem fieldsText_singleton (key : Text) (value : Json) (rest : Text) :
    fieldsText [(key, value)] rest =
      renderString key ++ ':' :: ' ' :: (render value ++ '\x7d' :: rest) := by
  simp [fieldsText, renderFields, Text.join]

theorem fieldsText_cons (key : Text) (value : Json) (next : Text × Json) (fields : Fields)
    (rest : Text) :
    fieldsText ((key, value) :: next :: fields) rest =
      renderString key ++ ':' :: ' ' ::
        (render value ++ ',' :: ' ' :: fieldsText (next :: fields) rest) := by
  simp [fieldsText, renderFields, Text.join]

theorem exists_itemsText_opening {item : Json} (readable : item.IsReadable) (items : List Json)
    (rest : Text) : ∃ c row, itemsText (item :: items) rest = c :: row ∧ c ∉ between := by
  obtain ⟨c, row, eq, solid⟩ := exists_opening readable
  cases items with
  | nil => exact ⟨c, _, by rw [itemsText_singleton, eq, List.cons_append], solid⟩
  | cons next items => exact ⟨c, _, by rw [itemsText_cons, eq, List.cons_append], solid⟩

theorem exists_fieldsText_quote (field : Text × Json) (fields : Fields) (rest : Text) :
    ∃ row, fieldsText (field :: fields) rest = '"' :: row := by
  obtain ⟨key, value⟩ := field
  cases fields with
  | nil => exact ⟨_, by rw [fieldsText_singleton, renderString_append]⟩
  | cons next fields => exact ⟨_, by rw [fieldsText_cons, renderString_append]⟩

theorem skipSpace_itemsText {item : Json} (readable : item.IsReadable) (items : List Json)
    (rest : Text) :
    skipSpace (itemsText (item :: items) rest) = itemsText (item :: items) rest := by
  obtain ⟨c, row, eq, solid⟩ := exists_itemsText_opening readable items rest
  rw [eq, skipSpace_cons solid]

theorem skipSpace_fieldsText (field : Text × Json) (fields : Fields) (rest : Text) :
    skipSpace (fieldsText (field :: fields) rest) = fieldsText (field :: fields) rest := by
  obtain ⟨row, eq⟩ := exists_fieldsText_quote field fields rest
  rw [eq, skipSpace_mark rfl]

theorem render_arr_append (items : List Json) (rest : Text) :
    render (.arr items) ++ rest = '[' :: itemsText items rest := by
  simp [render, itemsText]

theorem render_obj_append (fields : Fields) (rest : Text) :
    render (.obj fields) ++ rest = '\x7b' :: fieldsText fields rest := by
  simp [render, fieldsText]

theorem readValue_array {item : Json} {items : List Json} (readable : item.IsReadable)
    (read : readItems fuel (itemsText (item :: items) rest) = .ok (item :: items, rest)) :
    readValue (fuel + 1) (render (.arr (item :: items)) ++ rest) =
      .ok (.arr (item :: items), rest) := by
  have skip := skipSpace_itemsText readable items rest
  obtain ⟨c, row, eq, solid⟩ := exists_itemsText_opening readable items rest
  rw [render_arr_append, readValue, skip]
  rw [eq] at read ⊢
  -- The reader looks for a closing bracket first, and no item begins with one.
  split
  · rename_i closed
    exact absurd (by decide) ((List.cons.inj closed).1 ▸ solid)
  · rw [read]
    rfl

theorem readValue_object {field : Text × Json} {fields : Fields}
    (distinct : (Fields.keys (field :: fields)).Nodup)
    (read : readFields fuel (fieldsText (field :: fields) rest) = .ok (field :: fields, rest)) :
    readValue (fuel + 1) (render (.obj (field :: fields)) ++ rest) =
      .ok (.obj (field :: fields), rest) := by
  have skip := skipSpace_fieldsText field fields rest
  obtain ⟨row, eq⟩ := exists_fieldsText_quote field fields rest
  rw [render_obj_append, readValue, skip]
  rw [eq] at read ⊢
  change (readFields fuel ('"' :: row)).map _ = _
  rw [read]
  simp only [Except.map, Fields.ofList_of_nodup distinct]

mutual

/-- A value on its line is read back, and what follows it is left. -/
theorem readValue_render : ∀ value : Json, value.IsReadable → ∀ (fuel : Nat) (rest : Text),
    2 * (render value).length ≤ fuel → EndsNumber rest →
      readValue fuel (render value ++ rest) = .ok (value, rest)
  | .null, _, fuel + 1, _, _, _ => rfl
  | .bool true, _, fuel + 1, _, _, _ => rfl
  | .bool false, _, fuel + 1, _, _, _ => rfl
  | .int _, short, fuel + 1, _, _, ends => by
      obtain ⟨_, _, written⟩ := exists_isWrittenAs_int short
      exact readValue_number written ends
  | .float .nan, _, fuel + 1, _, _, _ => rfl
  | .float (.infinity true), _, fuel + 1, _, _, _ => rfl
  | .float (.infinity false), _, fuel + 1, _, _, _ => rfl
  | .float (.finite _ _ _), canonical, fuel + 1, _, _, ends => by
      obtain ⟨_, written⟩ := exists_isWrittenAs_finite canonical
      exact readValue_number written ends
  | .str text, _, fuel + 1, rest, _, _ => readValue_renderString text rest
  | .arr [], _, fuel + 1, _, _, _ => rfl
  | .arr (item :: items), readable, fuel + 1, rest, enough, _ =>
      readValue_array readable.1 (readItems_render item items readable fuel rest (by
        simp only [render, List.length_append, List.length_cons, List.length_nil] at enough
        omega))
  | .obj [], _, fuel + 1, _, _, _ => rfl
  | .obj (field :: fields), readable, fuel + 1, rest, enough, _ =>
      readValue_object readable.1 (readFields_render field fields readable.2 fuel rest (by
        simp only [render, List.length_append, List.length_cons, List.length_nil] at enough
        omega))
  | value, readable, 0, _, enough, _ => by
      obtain ⟨c, row, eq, -⟩ := exists_opening readable
      rw [eq, List.length_cons] at enough
      omega

/-- The items of an array are read back up to its closing bracket. -/
theorem readItems_render : ∀ (item : Json) (items : List Json), AreReadable (item :: items) →
    ∀ (fuel : Nat) (rest : Text),
      2 * (Text.join ", " (renderItems (item :: items))).length < fuel →
        readItems fuel (itemsText (item :: items) rest) = .ok (item :: items, rest)
  | item, [], readable, fuel + 1, rest, enough =>
      readItems_bracket (readValue_render item readable.1 fuel _ (Nat.lt_succ_iff.mp enough)
        (endsNumber_mark (by decide) rest))
  | item, next :: items, readable, fuel + 1, rest, enough => by
      have length : (Text.join ", " (renderItems (item :: next :: items))).length =
          (render item).length + 2 + (Text.join ", " (renderItems (next :: items))).length := by
        simp [renderItems, Text.join]
        omega
      have first := readValue_render item readable.1 fuel _ (by omega)
        (endsNumber_mark (c := ',') (by decide) (' ' :: itemsText (next :: items) rest))
      have later := readItems_render next items readable.2 fuel rest (by omega)
      rw [itemsText_cons]
      exact readItems_comma first (skipSpace_itemsText readable.2.1 items rest) later

/-- The fields of an object are read back up to its closing brace. -/
theorem readFields_render : ∀ (field : Text × Json) (fields : Fields),
    HaveReadable (field :: fields) → ∀ (fuel : Nat) (rest : Text),
      2 * (Text.join ", " (renderFields (field :: fields))).length < fuel →
        readFields fuel (fieldsText (field :: fields) rest) = .ok (field :: fields, rest)
  | (key, value), [], readable, fuel + 1, rest, enough => by
      have length : (render value).length ≤
          (Text.join ", " (renderFields [(key, value)])).length := by
        simp [renderFields, Text.join]
        omega
      have read := readValue_render value readable.1 fuel _ (by omega)
        (endsNumber_mark (c := '\x7d') (by decide) rest)
      rw [fieldsText_singleton]
      exact readFields_brace (skipSpace_render_append readable.1 _) read
  | (key, value), next :: fields, readable, fuel + 1, rest, enough => by
      have length : (render value).length +
            (Text.join ", " (renderFields (next :: fields))).length <
          (Text.join ", " (renderFields ((key, value) :: next :: fields))).length := by
        simp [renderFields, Text.join]
        omega
      have read := readValue_render value readable.1 fuel _ (by omega)
        (endsNumber_mark (c := ',') (by decide) (' ' :: fieldsText (next :: fields) rest))
      have later := readFields_render next fields readable.2 fuel rest (by omega)
      rw [fieldsText_cons]
      exact readFields_comma (skipSpace_render_append readable.1 _) read
        (skipSpace_fieldsText next fields rest) later

end

/-! ## Whole texts -/

/-- A value with nothing but space behind it is read as that value. -/
theorem parse_render_append {value : Json} (readable : value.IsReadable) {space : Text}
    (blank : ∀ c ∈ space, isSpace c = true) : parse (render value ++ space) = .ok value := by
  have solid := skipSpace_render_append readable space
  have ends : EndsNumber space := by
    cases space with
    | nil => exact fun c mem => absurd mem (by simp)
    | cons c later =>
        exact endsNumber_mark (mem_between_of_isSpace (blank c List.mem_cons_self)) later
  have read : readValue (enoughFuel (render value ++ space)) (render value ++ space) =
      .ok (value, space) := by
    apply readValue_render value readable
    · simp only [enoughFuel, List.length_append]
      omega
    · exact ends
  have noMark : Text.startsWith ['\ufeff'] (render value ++ space) = false := by
    obtain ⟨c, row, eq, -⟩ := exists_opening readable
    have printed := isPlainLine_render value readable c (eq ▸ List.mem_cons_self)
    have other : ('\ufeff' == c) = false := by
      apply beq_false_of_ne
      rintro rfl
      exact absurd printed.2 (by decide)
    simp [eq, Text.startsWith, List.isPrefixOf, other]
  have rest : skipSpace space = [] := List.dropWhile_eq_nil_iff.mpr blank
  rw [parse, readDocument, noMark, solid, read]
  simp [rest]

/-- A value on a line of its own is read as that value. -/
theorem parse_render {value : Json} (readable : value.IsReadable) :
    parse (render value ++ "\n") = .ok value :=
  parse_render_append readable (by simp [isSpace])

/-- A string is read as its text. -/
theorem parse_renderString (text : Text) : parse (renderString text) = .ok (.str text) := by
  have read := @parse_render_append (.str text) trivial [] (List.forall_mem_nil _)
  rwa [List.append_nil] at read

/-! ## What is read -/

theorem isReadable_of_readScalar {text : Text} {value : Json}
    (read : readScalar text = .ok (value, rest)) : value.IsReadable := by
  have words : ∀ word ∈ literals, word.2.IsReadable := by
    simp [literals, IsReadable, IsCanonical]
  unfold readScalar at read
  split at read
  · rename_i found literal
    obtain ⟨word, find, same⟩ := Option.map_eq_some_iff.mp literal
    obtain ⟨rfl, -⟩ := Prod.mk.inj (same.trans (Except.ok.inj read))
    exact words word (List.mem_of_find?_eq_some find)
  · split at read
    · rename_i number
      obtain ⟨rfl, -⟩ := Prod.mk.inj (Except.ok.inj read)
      exact isReadable_of_readNumber? number
    · contradiction
    · contradiction

theorem map_eq_ok {reading : Reading α} {f : α × Text → β × Text} {result : β × Text}
    (mapped : reading.map f = .ok result) : ∃ found, reading = .ok found ∧ f found = result := by
  cases reading with
  | error stop => contradiction
  | ok found => exact ⟨found, rfl, Except.ok.inj mapped⟩

mutual

theorem isReadable_of_readValue : ∀ (fuel : Nat) {text rest : Text} {value : Json},
    readValue fuel text = .ok (value, rest) → value.IsReadable
  | fuel + 1, text, rest, value, read => by
      unfold readValue at read
      dsimp only at read
      split at read
      · obtain ⟨found, -, same⟩ := map_eq_ok read
        obtain ⟨rfl, -⟩ := Prod.mk.inj same
        exact trivial
      · split at read
        · obtain ⟨rfl, -⟩ := Prod.mk.inj (Except.ok.inj read)
          exact trivial
        · obtain ⟨items, readItems, same⟩ := map_eq_ok read
          obtain ⟨rfl, -⟩ := Prod.mk.inj same
          exact areReadable_of_readItems fuel readItems
      · split at read
        · obtain ⟨rfl, -⟩ := Prod.mk.inj (Except.ok.inj read)
          exact ⟨List.nodup_nil, trivial⟩
        · obtain ⟨fields, readFields, same⟩ := map_eq_ok read
          obtain ⟨rfl, -⟩ := Prod.mk.inj same
          have written := haveReadable_of_readFields fuel readFields
          exact ⟨Fields.nodup_ofList _, Fields.haveReadable_ofList written⟩
      · exact isReadable_of_readScalar read

theorem areReadable_of_readItems : ∀ (fuel : Nat) {text rest : Text} {items : List Json},
    readItems fuel text = .ok (items, rest) → AreReadable items
  | fuel + 1, text, rest, items, read => by
      rw [readItems] at read
      split at read
      · contradiction
      · rename_i item afterItem readItem
        have first := isReadable_of_readValue fuel readItem
        split at read
        · obtain ⟨rfl, -⟩ := Prod.mk.inj (Except.ok.inj read)
          exact ⟨first, trivial⟩
        · obtain ⟨later, readLater, same⟩ := map_eq_ok read
          obtain ⟨rfl, -⟩ := Prod.mk.inj same
          exact ⟨first, areReadable_of_readItems fuel readLater⟩
        · contradiction

theorem haveReadable_of_readFields : ∀ (fuel : Nat) {text rest : Text} {fields : Fields},
    readFields fuel text = .ok (fields, rest) → HaveReadable fields
  | fuel + 1, text, rest, fields, read => by
      unfold readFields at read
      dsimp only at read
      split at read
      · split at read
        · contradiction
        · split at read
          · split at read
            · contradiction
            · rename_i value afterValue readValue
              have first := isReadable_of_readValue fuel readValue
              split at read
              · obtain ⟨rfl, -⟩ := Prod.mk.inj (Except.ok.inj read)
                exact ⟨first, trivial⟩
              · obtain ⟨later, readLater, same⟩ := map_eq_ok read
                obtain ⟨rfl, -⟩ := Prod.mk.inj same
                exact ⟨first, haveReadable_of_readFields fuel readLater⟩
              · contradiction
          · contradiction
      · contradiction

end

/-- What is read from a text can be written. -/
theorem isReadable_of_parse {text : Text} {value : Json} (read : parse text = .ok value) :
    value.IsReadable := by
  unfold parse at read
  split at read
  · rename_i document
    obtain rfl := Except.ok.inj read
    unfold readDocument at document
    split at document
    · contradiction
    · split at document
      · contradiction
      · rename_i readValue
        split at document
        · obtain rfl := Except.ok.inj document
          exact isReadable_of_readValue _ readValue
        · contradiction
  · contradiction
  · contradiction

/-! ## Numbers that are too long -/

/-- A whole number with too many digits is no value. -/
theorem parse_of_oversized {whole : Text} (isWhole : IsWhole whole)
    (long : digitLimit < whole.length) : parse whole = .error (.oversized whole.length) := by
  have proper : (⟨whole, [], none⟩ : Parts).Proper :=
    ⟨isWhole, fun _ mem => absurd mem List.not_mem_nil, fun _ _ same => absurd same (by simp)⟩
  have number : readNumber? whole = some (.oversized whole.length, []) := by
    have read := @readNumber?_text [] _ proper (fun _ mem => absurd mem (by simp)) false
    have text : Binary64.sign false ++ (⟨whole, [], none⟩ : Parts).text ++ [] = whole := by
      simp [Binary64.sign, Parts.text, Parts.fractionText, Parts.exponentText]
    rw [text] at read
    rw [read, Numeral.of, if_pos ⟨rfl, rfl⟩, if_pos long]
  obtain ⟨digit, row, rfl⟩ := List.exists_cons_of_ne_nil isWhole.nonempty
  have isDigit := isWhole.digits digit List.mem_cons_self
  have other : ∀ c : Char, c.isDigit = false → digit ≠ c := fun c other =>
    (ne_of_isDigit isDigit other).symm
  have scalar : readScalar (digit :: row) = .error (.oversized (digit :: row).length) := by
    have none : readLiteral? (digit :: row) = none := readLiteral?_number false isDigit row
    rw [readScalar, none, number]
  have read : readValue (enoughFuel (digit :: row)) (skipSpace (digit :: row)) =
      .error (.oversized (digit :: row).length) := by
    rw [skipSpace_cons (not_mem_between_of_isDigit isDigit), ← scalar]
    exact readValue_readScalar (other _ rfl) (other _ rfl) (other _ rfl)
  have unmarked : ¬Text.startsWith ['\ufeff'] (digit :: row) = true := by
    simp [Text.startsWith, (other '\ufeff' rfl).symm]
  rw [parse, readDocument, if_neg unmarked, read]

end SafeDelete.Json
