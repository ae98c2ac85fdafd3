/-
Module: SafeDelete.Proofs.Shell.Quoting
Purpose: Words that are quoted when they are written are read back as what was meant.
Main exports: Shell.Quiet, Shell.Reads, Shell.Reads.append, Shell.QuotedPart,
  Shell.QuotedWord.reads, Shell.segments_unwords, Shell.quoted_word_is_read_back
-/
import SafeDelete.Proofs.Shell.Segments
import SafeDelete.Proofs.Shell.Spacing

namespace SafeDelete.Shell

/-!
### Reading a text

The same machine says where words end, where commands end and what a word means.  What it makes of a
text in one go is kept in one record, so that texts are put behind each other in one step.
-/

/-- A character that ends a word, or that an operator is spelled with. -/
def IsBreak (c : Char) : Prop :=
  isSeparator c = true ∨ c = '&' ∨ c = '|' ∨ c = ';'

/-- Read in the given mode, the text has no such character outside quotes and escapes. -/
def Quiet : ScanMode → Text → Prop
  | _, [] => True
  | mode, c :: rest => (mode = .plain → ¬IsBreak c) ∧ Quiet (mode.step c) rest

/-- Read in the mode `before`, the text means another one, `quote` is the first that opens in it,
it has no break, and it leaves the scanner in the mode `after`. -/
structure Reads (before : ScanMode) (text meant : Text) (quote : Option Quote)
    (after : ScanMode) : Prop where
  run : before.run text = after
  literal : literalFrom before text = meant
  opening : openingQuoteFrom before text = quote
  quiet : Quiet before text

theorem quiet_append {mode : ScanMode} {front back : Text} :
    Quiet mode (front ++ back) ↔ Quiet mode front ∧ Quiet (mode.run front) back := by
  induction front generalizing mode with
  | nil => exact (iff_of_eq (true_and _)).symm
  | cons c rest ih =>
      rw [List.cons_append, Quiet, Quiet, ih, and_assoc]
      rfl

theorem Quiet.unbroken {mode : ScanMode} {text : Text} (quiet : Quiet mode text) :
    Unbroken mode text := by
  induction text generalizing mode with
  | nil => trivial
  | cons c rest ih =>
      obtain ⟨here, later⟩ := quiet
      exact ⟨fun separates => here separates.1 (Or.inl separates.2), ih later⟩

theorem Quiet.uncut {mode : ScanMode} {text : Text} (quiet : Quiet mode text) :
    Uncut mode text := by
  induction text generalizing mode with
  | nil => trivial
  | cons c rest ih =>
      obtain ⟨here, later⟩ := quiet
      refine ⟨fun plain => ?_, ih later⟩
      have ordinary := here plain
      unfold operatorAt?
      split <;> simp_all [IsBreak]

theorem literalFrom_append (mode : ScanMode) (front back : Text) :
    literalFrom mode (front ++ back) =
      literalFrom mode front ++ literalFrom (mode.run front) back := by
  induction front generalizing mode with
  | nil => rfl
  | cons c rest ih =>
      rw [List.cons_append, literalFrom, literalFrom, ih]
      split <;> rfl

theorem openingQuoteFrom_append (mode : ScanMode) (front back : Text) :
    openingQuoteFrom mode (front ++ back) =
      (openingQuoteFrom mode front).or (openingQuoteFrom (mode.run front) back) := by
  induction front generalizing mode with
  | nil => cases mode <;> rfl
  | cons c rest ih =>
      rw [List.cons_append, openingQuoteFrom_cons, openingQuoteFrom_cons, ih, Option.or_assoc]
      rfl

theorem reads_nil (mode : ScanMode) : Reads mode [] [] none mode :=
  ⟨rfl, by cases mode <;> rfl, by cases mode <;> rfl, trivial⟩

theorem Reads.isWord {text meant : Text} {quote : Option Quote} {after : ScanMode}
    (reads : Reads .plain text meant quote after) (nonempty : text ≠ []) : IsWord text :=
  ⟨nonempty, reads.quiet.unbroken⟩

/-- A text is read on from where the text before it was left. -/
theorem Reads.append {before between after : ScanMode} {front back meantFront meantBack : Text}
    {quoteFront quoteBack : Option Quote}
    (readsFront : Reads before front meantFront quoteFront between)
    (readsBack : Reads between back meantBack quoteBack after) :
    Reads before (front ++ back) (meantFront ++ meantBack) (quoteFront.or quoteBack) after where
  run := by rw [ScanMode.run_append, readsFront.run, readsBack.run]
  literal := by
    rw [literalFrom_append, readsFront.run, readsFront.literal, readsBack.literal]
  opening := by
    rw [openingQuoteFrom_append, readsFront.run, readsFront.opening, readsBack.opening]
  quiet := by
    rw [quiet_append, readsFront.run]
    exact ⟨readsFront.quiet, readsBack.quiet⟩

/-- A text that is spelled character by character is read back character by character. -/
theorem reads_flatMap {mode : ScanMode} {spell : Char → Text} {text : Text}
    (each : ∀ c ∈ text, Reads mode (spell c) [c] none mode) :
    Reads mode (text.flatMap spell) text none mode := by
  induction text with
  | nil => exact reads_nil mode
  | cons c rest ih =>
      rw [List.flatMap_cons]
      have later := ih fun d mem => each d (List.mem_cons_of_mem _ mem)
      exact (each c List.mem_cons_self).append later

/-!
### Writing a word
-/

/-- The characters that are written with a backslash outside quotes. -/
def isSpecial (c : Char) : Bool :=
  isSeparator c || ['\'', '"', '\\', '&', '|', ';'].contains c

/-- The characters that are written with a backslash between double quotes. -/
def isSpecialInDouble (c : Char) : Bool :=
  c == '"' || c == '\\'

/-- A character, with a backslash before it if it is special. -/
def escaped (special : Char → Bool) (c : Char) : Text :=
  if special c then ['\\', c] else [c]

/-- A part of a word that is written in one of three styles. -/
inductive QuotedPart where
  | bare (text : Text)
  /-- Nothing is escaped between single quotes, so that a single quote cannot stand there. -/
  | single (text : Text) (noMark : '\'' ∉ text)
  | double (text : Text)

namespace QuotedPart

/-- What is meant. -/
def meant : QuotedPart → Text
  | bare text => text
  | single text _ => text
  | double text => text

/-- How it is written. -/
def written : QuotedPart → Text
  | bare text => text.flatMap (escaped isSpecial)
  | single text _ => '\'' :: (text ++ ['\''])
  | double text => '"' :: (text.flatMap (escaped isSpecialInDouble) ++ ['"'])

/-- The quote that opens in it. -/
def quote? : QuotedPart → Option Quote
  | bare _ => none
  | single _ _ => some .single
  | double _ => some .double

end QuotedPart

/-- A word in parts. -/
abbrev QuotedWord := List QuotedPart

namespace QuotedWord

def meant (word : QuotedWord) : Text :=
  word.flatMap QuotedPart.meant

def written (word : QuotedWord) : Text :=
  word.flatMap QuotedPart.written

/-- The quote of the first part that is between quotes. -/
def quote? (word : QuotedWord) : Option Quote :=
  word.findSome? QuotedPart.quote?

theorem quote?_cons (part : QuotedPart) (word : QuotedWord) :
    quote? (part :: word) = part.quote?.or (quote? word) := by
  rw [quote?, List.findSome?_cons]
  cases part.quote? <;> rfl

end QuotedWord

/-!
### Reading it back
-/

theorem reads_escaped {mode : ScanMode} {special : Char → Bool} {c : Char}
    (backslash : special c = true → Reads mode ['\\', c] [c] none mode)
    (plain : special c = false → Reads mode [c] [c] none mode) :
    Reads mode (escaped special c) [c] none mode := by
  cases eq : special c with
  | true =>
      rw [escaped, if_pos eq]
      exact backslash eq
  | false =>
      rw [escaped, if_neg (by simp [eq])]
      exact plain eq

/-- An ordinary character outside quotes means itself. -/
theorem reads_ordinary {c : Char} (bare : IsBare c) (noBreak : ¬IsBreak c) :
    Reads .plain [c] [c] none .plain := by
  have noQuote : Quote.ofChar? c = none := by simp [Quote.ofChar?, bare.2.1, bare.2.2]
  constructor
  · exact bare.step_plain
  · simp [literalFrom, bare.keeps]
  · simp [openingQuoteFrom, noQuote]
  · exact ⟨fun _ => noBreak, trivial⟩

theorem reads_bare (text : Text) :
    Reads .plain (text.flatMap (escaped isSpecial)) text none .plain := by
  refine reads_flatMap fun c _ => reads_escaped (fun _ => ?_) fun ordinary => ?_
  · exact ⟨rfl, rfl, rfl, by simp [Quiet, IsBreak, isSeparator, ScanMode.step]⟩
  · obtain ⟨bare, noBreak⟩ : IsBare c ∧ ¬IsBreak c := by
      simp_all [isSpecial, IsBare, IsBreak]
    exact reads_ordinary bare noBreak

theorem reads_single {text : Text} (noMark : '\'' ∉ text) :
    Reads .single text text none .single := by
  have reads : Reads .single (text.flatMap fun c => [c]) text none .single := by
    apply reads_flatMap
    intro c mem
    have notMark : c ≠ '\'' := fun mark => noMark (mark ▸ mem)
    constructor
    · simp [ScanMode.run, ScanMode.step, Quote.mark, notMark]
    · simp [literalFrom, ScanMode.keeps, Quote.mark, notMark]
    · simp [openingQuoteFrom]
    · simp [Quiet]
  simpa using reads

/-- Between double quotes a character other than the mark and the backslash means itself. -/
theorem reads_double_plain {c : Char} (notMark : c ≠ '"') (notBackslash : c ≠ '\\') :
    Reads .double [c] [c] none .double := by
  constructor
  · simp [ScanMode.run, ScanMode.step, Quote.mark, notMark, notBackslash]
  · simp [literalFrom, ScanMode.keeps, Quote.mark, notMark, notBackslash]
  · simp [openingQuoteFrom]
  · simp [Quiet]

theorem reads_double_escaped (c : Char) : Reads .double ['\\', c] [c] none .double :=
  ⟨rfl, rfl, rfl, by simp [Quiet, ScanMode.step]⟩

theorem reads_double (text : Text) :
    Reads .double (text.flatMap (escaped isSpecialInDouble)) text none .double := by
  refine reads_flatMap fun c _ => reads_escaped (fun _ => reads_double_escaped c) fun ordinary => ?_
  obtain ⟨notMark, notBackslash⟩ : c ≠ '"' ∧ c ≠ '\\' := by
    simpa [isSpecialInDouble] using ordinary
  exact reads_double_plain notMark notBackslash

/-- A text that is read between double quotes is one quoted text with them. -/
theorem Reads.double_quoted {text meant : Text} (reads : Reads .double text meant none .double) :
    Reads .plain ('"' :: (text ++ ['"'])) meant (some .double) .plain := by
  have opens : Reads .plain ['"'] [] (some .double) .double :=
    ⟨rfl, rfl, rfl, by simp [Quiet, IsBreak, isSeparator]⟩
  have closes : Reads .double ['"'] [] none .plain :=
    ⟨rfl, rfl, rfl, by simp [Quiet]⟩
  have whole := opens.append (reads.append closes)
  rwa [List.append_nil] at whole

/-- Each part of a word is read back, and the scanner is outside quotes again. -/
theorem QuotedPart.reads (part : QuotedPart) :
    Reads .plain part.written part.meant part.quote? .plain := by
  cases part with
  | bare text => exact reads_bare text
  | single text noMark =>
      have opens : Reads .plain ['\''] [] (some .single) .single :=
        ⟨rfl, rfl, rfl, by simp [Quiet, IsBreak, isSeparator]⟩
      have closes : Reads .single ['\''] [] none .plain :=
        ⟨rfl, rfl, rfl, by simp [Quiet]⟩
      have reads := opens.append ((reads_single noMark).append closes)
      rwa [List.append_nil] at reads
  | double text => exact (reads_double text).double_quoted

/-- A word is read part by part. -/
theorem QuotedWord.reads (word : QuotedWord) :
    Reads .plain word.written word.meant word.quote? .plain := by
  induction word with
  | nil => exact reads_nil .plain
  | cons part word ih =>
      rw [QuotedWord.quote?_cons]
      exact part.reads.append ih

/-- Words on one line are one segment, if there is no operator in them and no blank to trim. -/
theorem segments_unwords {parts : List Text} (isWord : ∀ part ∈ parts, IsWord part)
    (closed : ClosedButLast parts) (uncut : ∀ part ∈ parts, Uncut .plain part)
    (solid : Text.Solid (Text.unwords parts)) (nonempty : parts ≠ []) :
    segments (Text.unwords parts) = [⟨Text.unwords parts, parts.map Token.ofText, none⟩] := by
  have read : words (Text.unwords parts) = parts := by
    rw [words_unwords closed, flatMap_words isWord]
  have visible : Text.isBlank (Text.unwords parts) = false := by
    rw [Bool.eq_false_iff]
    intro blank
    rw [← Text.trim_eq_nil_iff, Text.trim_of_solid solid] at blank
    rw [blank] at read
    exact nonempty read.symm
  rw [segments_of_uncut visible (uncut_unwords uncut closed), Segment.ofText,
    Text.trim_of_solid solid, tokenize, read]

/-- However the parts of a word are quoted, it is one token with the first quote that opens in it,
it means what was meant, and between other words of a command it stays the word it is. -/
theorem quoted_word_is_read_back {word : QuotedWord} (nonempty : word.written ≠ []) :
    tokenize word.written = [⟨word.written, word.quote?⟩] ∧
      IsFirstQuote .plain word.written word.quote? ∧
      literal word.written = word.meant ∧
      (segments ("echo " ++ word.written ++ " end")).map
          (fun segment => segment.tokens.map Token.text) =
        [[("echo" : Text), word.written, "end"]] := by
  have reads := word.reads
  have isWord := reads.isWord nonempty
  refine ⟨?_, openingQuote_eq_iff.mp reads.opening, reads.literal, ?_⟩
  · rw [isWord.tokenize_eq, Token.ofText, openingQuote, reads.opening]
  · have line : "echo " ++ word.written ++ " end" =
        Text.unwords [("echo" : Text), word.written, "end"] := by
      simp [Text.unwords, Text.join]
    have echo : Reads .plain "echo" "echo" none .plain := QuotedWord.reads [.bare "echo"]
    have finish : Reads .plain "end" "end" none .plain := QuotedWord.reads [.bare "end"]
    rw [line, segments_unwords]
    · simp [Token.ofText]
    · simpa using ⟨echo.isWord (by simp), isWord, finish.isWord (by simp)⟩
    · apply closedButLast_of_closed
      simpa using ⟨echo.run, reads.run, finish.run⟩
    · simpa using ⟨echo.quiet.uncut, reads.quiet.uncut, finish.quiet.uncut⟩
    · apply solid_unwords
      · simpa using nonempty
      · simp
        decide
      · simp
        decide
    · simp

theorem quoted_word_is_read_back_mixed :
    let word : QuotedWord := [.bare "a b;", .double "c\"&&\\", .single "d|\\" (by decide)]
    let written : Text := "a\\ b\\;\"c\\\"&&\\\\\"'d|\\'"
    word.written ≠ [] ∧ tokenize written = [⟨written, some .double⟩] ∧
      literal written = "a b;c\"&&\\d|\\" ∧
      (segments ("echo " ++ written ++ " end")).map
          (fun segment => segment.tokens.map Token.text) = [[("echo" : Text), written, "end"]] := by
  intro word written
  have nonempty : word.written ≠ [] := by decide
  obtain ⟨token, _, literal, line⟩ := quoted_word_is_read_back nonempty
  exact ⟨nonempty, token, literal, line⟩

end SafeDelete.Shell
