/-
Module: SafeDelete.Proofs.Shell.Spacing
Purpose: A command line is words with separators between them, in exactly one way.
Main exports: Shell.OpensBehind, Shell.IsFirstQuote, Shell.openingQuote_eq_iff, Shell.Spacing,
  Shell.IsSpacing, Shell.isSpacing_cons, Shell.IsSpacing.unique, Shell.tokenize_of_unique_spacing
-/
import SafeDelete.Proofs.Shell.Line

namespace SafeDelete.Shell

/-!
### The first quote of a word
-/

/-- In a text that is read in the given mode, a quote opens behind `front`: its mark stands there,
outside quotes and escapes. -/
def OpensBehind (mode : ScanMode) (front : Text) (quote : Quote) (text : Text) : Prop :=
  mode.run front = .plain ∧ front ++ [quote.mark] <+: text

/-- The first quote that opens in a text, if there is one. -/
def IsFirstQuote (mode : ScanMode) (text : Text) : Option Quote → Prop
  | none => ∀ front quote, ¬OpensBehind mode front quote text
  | some quote => ∃ front, OpensBehind mode front quote text ∧
      ∀ before other, OpensBehind mode before other text → front.length ≤ before.length

theorem Quote.ofChar?_eq_some_iff {c : Char} {quote : Quote} :
    Quote.ofChar? c = some quote ↔ c = quote.mark := by
  unfold Quote.ofChar?
  cases quote <;> grind [Quote.mark]

theorem Quote.mark_injective {first second : Quote} (same : first.mark = second.mark) :
    first = second := by
  have opens := Quote.ofChar?_eq_some_iff.mpr same
  rw [Quote.ofChar?_eq_some_iff.mpr rfl] at opens
  exact Option.some.inj opens

theorem IsFirstQuote.unique {mode : ScanMode} {text : Text} {first second : Option Quote}
    (isFirst : IsFirstQuote mode text first) (isSecond : IsFirstQuote mode text second) :
    first = second := by
  cases first with
  | none =>
      cases second with
      | none => rfl
      | some quote =>
          obtain ⟨front, opens, _⟩ := isSecond
          exact absurd opens (isFirst front quote)
  | some quote =>
      obtain ⟨front, opens, least⟩ := isFirst
      cases second with
      | none => exact absurd opens (isSecond front quote)
      | some other =>
          obtain ⟨before, opensOther, leastOther⟩ := isSecond
          have length := Nat.le_antisymm (least before other opensOther)
            (leastOther front quote opens)
          have same : front ++ [quote.mark] = before ++ [other.mark] :=
            (List.prefix_of_prefix_length_le opens.2 opensOther.2 (by simp [length])).eq_of_length
              (by simp [length])
          have sameMark : quote.mark = other.mark := by
            simpa using (List.append_inj' same rfl).2
          rw [Quote.mark_injective sameMark]

/-- A quote that opens behind the first character opens in what follows it. -/
theorem opensBehind_cons {mode : ScanMode} {c d : Char} {front rest : Text} {quote : Quote} :
    OpensBehind mode (d :: front) quote (c :: rest) ↔
      d = c ∧ OpensBehind (mode.step c) front quote rest := by
  rw [OpensBehind, OpensBehind, ScanMode.run_cons, List.cons_append, List.cons_prefix_cons]
  constructor
  · rintro ⟨closed, rfl, spelled⟩
    exact ⟨rfl, closed, spelled⟩
  · rintro ⟨rfl, closed, spelled⟩
    exact ⟨closed, rfl, spelled⟩

/-- Where no quote opens at the first character, the first one is that of what follows it. -/
theorem IsFirstQuote.cons {mode : ScanMode} {c : Char} {rest : Text} {quote : Option Quote}
    (here : ∀ other, ¬OpensBehind mode [] other (c :: rest))
    (later : IsFirstQuote (mode.step c) rest quote) : IsFirstQuote mode (c :: rest) quote := by
  cases quote with
  | none =>
      intro front other opens
      cases front with
      | nil => exact here other opens
      | cons d front => exact later front other (opensBehind_cons.mp opens).2
  | some quote =>
      obtain ⟨front, opens, least⟩ := later
      refine ⟨c :: front, opensBehind_cons.mpr ⟨rfl, opens⟩, fun before other opensOther => ?_⟩
      cases before with
      | nil => exact absurd opensOther (here other)
      | cons d before =>
          have le := least before other (opensBehind_cons.mp opensOther).2
          simpa using le

theorem openingQuoteFrom_cons (mode : ScanMode) (c : Char) (rest : Text) :
    openingQuoteFrom mode (c :: rest) =
      (if mode = .plain then Quote.ofChar? c else none).or
        (openingQuoteFrom (mode.step c) rest) := by
  cases mode <;> rfl

theorem isFirstQuote_openingQuoteFrom (mode : ScanMode) (text : Text) :
    IsFirstQuote mode text (openingQuoteFrom mode text) := by
  induction text generalizing mode with
  | nil =>
      have none : openingQuoteFrom mode [] = none := by cases mode <;> rfl
      rw [none]
      intro front quote opens
      simpa using opens.2
  | cons c rest ih =>
      rw [openingQuoteFrom_cons]
      cases found : (if mode = .plain then Quote.ofChar? c else none) with
      | some quote =>
          obtain ⟨plain, opens⟩ : mode = .plain ∧ Quote.ofChar? c = some quote := by
            simpa using found
          rw [Quote.ofChar?_eq_some_iff] at opens
          exact ⟨[], ⟨plain, rest, by rw [opens]; rfl⟩, fun _ _ _ => Nat.zero_le _⟩
      | none =>
          refine IsFirstQuote.cons ?_ (ih _)
          rintro other ⟨plain, spelled⟩
          have mark : other.mark = c := (List.cons_prefix_cons.mp spelled).1
          have opens := Quote.ofChar?_eq_some_iff.mpr mark.symm
          rw [show mode = .plain from plain, if_pos rfl, opens] at found
          contradiction

theorem openingQuote_eq_iff {text : Text} {quote : Option Quote} :
    openingQuote text = quote ↔ IsFirstQuote .plain text quote := by
  constructor
  · rintro rfl
    exact isFirstQuote_openingQuoteFrom .plain text
  · intro isFirst
    exact (isFirstQuote_openingQuoteFrom .plain text).unique isFirst

/-!
### Words and gaps
-/

/-- A text of separators only. -/
def IsGap (gap : Text) : Prop :=
  ∀ c ∈ gap, isSeparator c = true

/-- A word with what stands between it and the next. -/
structure SpacedWord where
  token : Token
  gap : Text

/-- A word as it can stand in a line: unless the line ends with it, it ends outside quotes and
escapes. -/
structure SpacedWord.Wellformed (spaced : SpacedWord) : Prop where
  isWord : IsWord spaced.token.text
  quote : IsFirstQuote .plain spaced.token.text spaced.token.quote
  isGap : IsGap spaced.gap
  closed : spaced.gap ≠ [] → Closed spaced.token.text

/-- Words in a line. -/
structure Spacing where
  /-- What stands before the first word. -/
  margin : Text
  words : List SpacedWord

namespace Spacing

/-- The text that is put together from words and gaps. -/
def text (spacing : Spacing) : Text :=
  spacing.margin ++ spacing.words.flatMap fun spaced => spaced.token.text ++ spaced.gap

def tokens (spacing : Spacing) : List Token :=
  spacing.words.map SpacedWord.token

end Spacing

/-- A command line is spaced into words: nothing is lost, every gap consists of separators, only the
last one can be empty, and every word can stand where it does. -/
structure IsSpacing (command : Text) (spacing : Spacing) : Prop where
  whole : spacing.text = command
  margin : IsGap spacing.margin
  words : ∀ spaced ∈ spacing.words, spaced.Wellformed
  apart : spacing.words.Pairwise fun spaced _ => spaced.gap ≠ []

theorem isSpacing_nil {command margin : Text} :
    IsSpacing command ⟨margin, []⟩ ↔ margin = command ∧ IsGap margin := by
  constructor
  · rintro ⟨whole, isGap, -, -⟩
    exact ⟨by simpa [Spacing.text] using whole, isGap⟩
  · rintro ⟨rfl, isGap⟩
    exact ⟨by simp [Spacing.text], isGap, by simp, List.Pairwise.nil⟩

/-- The gap behind the first word is the margin of what follows that word. -/
theorem isSpacing_cons {command margin : Text} {spaced : SpacedWord} {words : List SpacedWord} :
    IsSpacing command ⟨margin, spaced :: words⟩ ↔
      IsGap margin ∧ spaced.Wellformed ∧ (words ≠ [] → spaced.gap ≠ []) ∧
        ∃ rest, command = margin ++ (spaced.token.text ++ rest) ∧
          IsSpacing rest ⟨spaced.gap, words⟩ := by
  constructor
  · rintro ⟨whole, isGap, wellformed, apart⟩
    rw [List.pairwise_cons] at apart
    have here := wellformed spaced List.mem_cons_self
    refine ⟨isGap, here, fun more => apart.1 _ (List.head_mem more),
      Spacing.text ⟨spaced.gap, words⟩, ?_, rfl, here.isGap,
      fun other mem => wellformed other (List.mem_cons_of_mem _ mem), apart.2⟩
    simp [← whole, Spacing.text]
  · rintro ⟨isGap, here, apart, rest, rfl, whole, -, wellformed, apartLater⟩
    constructor
    · simp [← whole, Spacing.text]
    · exact isGap
    · intro other mem
      rcases List.mem_cons.mp mem with rfl | mem
      · exact here
      · exact wellformed other mem
    · exact List.pairwise_cons.mpr ⟨fun other mem => apart (List.ne_nil_of_mem mem), apartLater⟩

theorem SpacedWord.wellformed_ofText {word gap : Text} (isWord : IsWord word) (isGap : IsGap gap)
    (closed : gap ≠ [] → Closed word) : Wellformed ⟨.ofText word, gap⟩ where
  isWord := isWord
  quote := openingQuote_eq_iff.mp rfl
  isGap := isGap
  closed := closed

theorem tokenize_append_separator {front : Text} (closed : Closed front) {c : Char}
    (separator : isSeparator c = true) (back : Text) :
    tokenize (front ++ c :: back) = tokenize front ++ tokenize back := by
  rw [tokenize, words_append_separator closed separator, List.map_append]
  rfl

theorem IsWord.tokenize_eq {word : Text} (isWord : IsWord word) :
    tokenize word = [.ofText word] := by
  rw [tokenize, isWord.words_eq]
  rfl

/-- Every text is spaced into its own words. -/
theorem exists_isSpacing (command : Text) :
    ∃ spacing : Spacing, IsSpacing command spacing ∧ spacing.tokens = tokenize command := by
  have noGap : IsGap [] := by simp [IsGap]
  induction command using word_induction with
  | unbroken text whole =>
      by_cases empty : text = []
      · exact ⟨⟨[], []⟩, isSpacing_nil.mpr ⟨empty.symm, noGap⟩, by rw [empty]; rfl⟩
      · have isWord : IsWord text := ⟨empty, whole⟩
        refine ⟨⟨[], [⟨.ofText text, []⟩]⟩, isSpacing_cons.mpr ⟨noGap, ?_, by simp, [], ?_, ?_⟩, ?_⟩
        · exact SpacedWord.wellformed_ofText isWord noGap (by simp)
        · exact (List.append_nil text).symm
        · exact isSpacing_nil.mpr ⟨rfl, noGap⟩
        · exact isWord.tokenize_eq.symm
  | separated front c back whole closed separator ih =>
      obtain ⟨⟨margin, words⟩, ⟨spelled, isGap, wellformed, apart⟩, tokens⟩ := ih
      have isGapHere : IsGap (c :: margin) := List.forall_mem_cons.mpr ⟨separator, isGap⟩
      have behind : IsSpacing (c :: back) ⟨c :: margin, words⟩ :=
        ⟨by rw [← spelled]; rfl, isGapHere, wellformed, apart⟩
      by_cases empty : front = []
      · refine ⟨⟨c :: margin, words⟩, by rwa [empty], ?_⟩
        rw [tokenize_append_separator closed separator, empty, ← tokens]
        rfl
      · have isWord : IsWord front := ⟨empty, whole⟩
        refine ⟨⟨[], ⟨.ofText front, c :: margin⟩ :: words⟩,
          isSpacing_cons.mpr ⟨noGap, ?_, by simp, c :: back, rfl, behind⟩, ?_⟩
        · exact SpacedWord.wellformed_ofText isWord isGapHere fun _ => closed
        · rw [tokenize_append_separator closed separator, isWord.tokenize_eq, ← tokens]
          rfl

/-!
### Uniqueness
-/

/-- A word does not start with a separator. -/
theorem IsWord.takeWhile_isSeparator {word : Text} (isWord : IsWord word) (rest : Text) :
    (word ++ rest).takeWhile isSeparator = [] := by
  cases word with
  | nil => exact absurd rfl isWord.nonempty
  | cons c word =>
      have visible : isSeparator c = false := by
        simpa using isWord.unbroken.1
      rw [List.cons_append, List.takeWhile_cons, visible]
      rfl

/-- The margin of a line is all its separators up to the first word. -/
theorem IsSpacing.margin_eq {command : Text} {spacing : Spacing}
    (spaced : IsSpacing command spacing) : spacing.margin = command.takeWhile isSeparator := by
  obtain ⟨margin, words⟩ := spacing
  cases words with
  | nil =>
      obtain ⟨rfl, isGap⟩ := isSpacing_nil.mp spaced
      exact (List.takeWhile_eq_self_iff.mpr isGap).symm
  | cons first words =>
      obtain ⟨isGap, wellformed, _, rest, rfl, _⟩ := isSpacing_cons.mp spaced
      rw [List.takeWhile_append_of_pos isGap, wellformed.isWord.takeWhile_isSeparator,
        List.append_nil]

/-- A word of a line ends where the scanner ends it. -/
theorem IsSpacing.splitWords_eq {word gap rest : Text} {words : List SpacedWord}
    (isWord : IsWord word) (closed : gap ≠ [] → Closed word) (apart : words ≠ [] → gap ≠ [])
    (spaced : IsSpacing rest ⟨gap, words⟩) : (splitWords .plain (word ++ rest)).1 = word := by
  cases gap with
  | nil =>
      have last : words = [] := by simpa using apart
      rw [last] at spaced
      obtain ⟨rfl, _⟩ := isSpacing_nil.mp spaced
      rw [List.append_nil, splitWords_of_unbroken isWord.unbroken]
  | cons c gap =>
      have separator : isSeparator c = true := spaced.margin c List.mem_cons_self
      have eq := spaced.whole
      rw [Spacing.text, List.cons_append] at eq
      rw [← eq, splitWords_append_separator (closed (by simp)) separator,
        splitWords_of_unbroken isWord.unbroken]

/-- A line without words is its own margin, and no other line is. -/
theorem IsSpacing.words_eq_nil_iff {command margin : Text} {words : List SpacedWord}
    (spaced : IsSpacing command ⟨margin, words⟩) : words = [] ↔ margin = command := by
  cases words with
  | nil => exact iff_of_true rfl (isSpacing_nil.mp spaced).1
  | cons first words =>
      obtain ⟨_, wellformed, _, rest, rfl, _⟩ := isSpacing_cons.mp spaced
      simpa using fun empty => absurd empty wellformed.isWord.nonempty

theorem SpacedWord.Wellformed.token_eq {spaced : SpacedWord} (wellformed : spaced.Wellformed) :
    spaced.token = .ofText spaced.token.text := by
  rw [Token.ofText, openingQuote_eq_iff.mpr wellformed.quote]

/-- There is only one spacing of a line. -/
theorem IsSpacing.unique {command : Text} {first second : Spacing}
    (isFirst : IsSpacing command first) (isSecond : IsSpacing command second) : first = second := by
  obtain ⟨margin, words⟩ := first
  obtain ⟨marginOther, others⟩ := second
  obtain rfl : margin = marginOther := isFirst.margin_eq.trans isSecond.margin_eq.symm
  induction words generalizing command margin others with
  | nil => rw [isSecond.words_eq_nil_iff.mpr (isFirst.words_eq_nil_iff.mp rfl)]
  | cons spaced words ih =>
      cases others with
      | nil =>
          have none := isFirst.words_eq_nil_iff.mpr (isSecond.words_eq_nil_iff.mp rfl)
          contradiction
      | cons other others =>
          obtain ⟨_, here, apart, rest, eq, later⟩ := isSpacing_cons.mp isFirst
          obtain ⟨_, hereOther, apartOther, restOther, eqOther, laterOther⟩ :=
            isSpacing_cons.mp isSecond
          have same := List.append_cancel_left (eq.symm.trans eqOther)
          have sameText : spaced.token.text = other.token.text := by
            rw [← later.splitWords_eq here.isWord here.closed apart, same,
              laterOther.splitWords_eq hereOther.isWord hereOther.closed apartOther]
          have sameToken : spaced.token = other.token := by
            rw [here.token_eq, hereOther.token_eq, sameText]
          rw [sameText, List.append_cancel_left_eq] at same
          subst same
          obtain ⟨token, gap⟩ := spaced
          obtain ⟨_, gapOther⟩ := other
          obtain rfl : gap = gapOther := later.margin_eq.trans laterOther.margin_eq.symm
          obtain rfl := sameToken
          have sameLater := ih gap later others laterOther
          rw [(Spacing.mk.inj sameLater).2]

/-- Every command line is spaced into words in exactly one way, and its tokens are those words. -/
theorem tokenize_of_unique_spacing (command : Text) :
    (∃ spacing : Spacing, (∀ other, IsSpacing command other ↔ other = spacing) ∧
        spacing.tokens = tokenize command) ∧
      tokenize (Text.unwords ((tokenize command).map Token.text)) = tokenize command := by
  constructor
  · obtain ⟨spacing, spaced, tokens⟩ := exists_isSpacing command
    refine ⟨spacing, fun other => ⟨fun isOther => isOther.unique spaced, ?_⟩, tokens⟩
    rintro rfl
    exact spaced
  · rw [tokenize_eq_iff, map_text_tokenize, words_unwords (closedButLast_words command),
      flatMap_words (isWord_of_mem_words command)]

end SafeDelete.Shell
