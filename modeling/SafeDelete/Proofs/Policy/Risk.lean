/-
Module: SafeDelete.Proofs.Policy.Risk
Purpose: The risk of a delete is what its options ask for and what its operands hold, and nothing
  else decides whether the command is refused.
Main exports: Risk.options, Risk.operands, Risk.ofWords_eq_foldr, Risk.ofWords_eq,
  isWildcard_iff, Risk.Describes, Risk.isSome_danger?_iff, judge_meets_policy
-/
import SafeDelete.Policy.Verdict
import SafeDelete.Proofs.Deletion.Flag

namespace SafeDelete

open Shell

/-!
### Options and operands

One pass over the words counts operands and collects effects.  Options and operands come mixed, but
no option changes what an operand adds, so that all options can be taken first.
-/

namespace Risk

/-- The options among the words after the delete command: those in front of the first bare double
dash that look like one. -/
def options (arguments : List Text) : List Text :=
  (arguments.takeWhile (· ≠ Operands.terminator)).filter isOptionLike

/-- The operands: all other words in front of the first bare double dash, and all words behind. -/
def operands (arguments : List Text) : List Text :=
  (arguments.takeWhile (· ≠ Operands.terminator)).filter (!isOptionLike ·) ++
    (arguments.dropWhile (· ≠ Operands.terminator)).drop 1

theorem foldr_withOption (words : List Text) (risk : Risk) :
    words.foldr (fun word risk => risk.withOption word) risk =
      { risk with
        recursive := words.any (fun word => (flagEffects word).recursive) || risk.recursive
        force := words.any (fun word => (flagEffects word).force) || risk.force } := by
  induction words with
  | nil => rfl
  | cons word words ih =>
      rw [List.foldr_cons, ih, withOption]
      simp only [List.any_cons, Bool.or_assoc]

theorem foldr_withOperand (words : List Text) (risk : Risk) :
    words.foldr (fun word risk => risk.withOperand word) risk =
      { risk with
        wildcard := words.any isWildcard || risk.wildcard
        operandCount := risk.operandCount + words.length } := by
  induction words with
  | nil => rfl
  | cons word words ih =>
      rw [List.foldr_cons, ih, withOperand]
      simp only [List.any_cons, List.length_cons, Bool.or_assoc, Nat.add_assoc]

theorem withOption_foldr_withOperand (words : List Text) (word : Text) (risk : Risk) :
    (words.foldr (fun word risk => risk.withOperand word) risk).withOption word =
      words.foldr (fun word risk => risk.withOperand word) (risk.withOption word) := by
  rw [foldr_withOperand, foldr_withOperand]
  rfl

/-- The risk of a delete is put together from its options and its operands. -/
theorem ofWords_eq_foldr (arguments : List Text) :
    ofWords arguments =
      (operands arguments).foldr (fun word risk => risk.withOperand word)
        ((options arguments).foldr (fun word risk => risk.withOption word) empty) := by
  induction arguments with
  | nil => rfl
  | cons word rest ih =>
      rw [ofWords]
      split
      · rename_i last
        simp [operands, options, last]
      · rename_i notLast
        split
        · rename_i option
          rw [ih, withOption_foldr_withOperand]
          simp [operands, options, notLast, option]
        · rename_i operand
          rw [ih]
          simp [operands, options, notLast, operand]

theorem ofWords_eq (arguments : List Text) :
    ofWords arguments =
      ⟨(options arguments).any fun word => (flagEffects word).recursive,
        (options arguments).any fun word => (flagEffects word).force,
        (operands arguments).any isWildcard, (operands arguments).length⟩ := by
  rw [ofWords_eq_foldr, foldr_withOperand, foldr_withOption]
  simp [empty]

theorem isOptionLike_of_mem_options {arguments : List Text} {word : Text}
    (mem : word ∈ options arguments) : isOptionLike word = true :=
  (List.mem_filter.mp mem).2

end Risk

/-!
### Wildcards of an operand
-/

/-- The characters of a wildcard. -/
def wildcardCharacters : Text :=
  "*?["

theorem mem_wildcardCharacters_iff {c : Char} :
    c ∈ wildcardCharacters ↔ c = '*' ∨ c = '?' ∨ c = '[' := by
  simp [wildcardCharacters]

theorem isBare_of_mem_wildcardCharacters : ∀ c ∈ wildcardCharacters, IsBare c := by
  simp [wildcardCharacters, IsBare]

/-- An operand is a wildcard by its text as written: quotes and backslashes make no difference. -/
theorem isWildcard_iff {word : Text} :
    isWildcard word = true ↔ ∃ c ∈ word, c ∈ wildcardCharacters := by
  have meant : isWildcard word = true ↔ ∃ c ∈ literal word, c ∈ wildcardCharacters := by
    simp only [isWildcard, List.any_eq_true, Bool.or_eq_true, beq_iff_eq,
      mem_wildcardCharacters_iff, or_assoc]
  rw [meant]
  refine exists_congr fun c => and_congr_left fun mem => ?_
  exact mem_literalFrom_iff (isBare_of_mem_wildcardCharacters c mem) .plain word

/-!
### The policy
-/

/-- What a risk says about the words after the delete command. -/
structure Risk.Describes (risk : Risk) (arguments : List Text) : Prop where
  recursive : risk.recursive = true ↔
    ∃ word ∈ options arguments, Asks "--recursive" "rR" word
  force : risk.force = true ↔ ∃ word ∈ options arguments, Asks "--force" "f" word
  wildcard : risk.wildcard = true ↔
    ∃ word ∈ operands arguments, ∃ c ∈ word, c ∈ wildcardCharacters
  operandCount : risk.operandCount = (operands arguments).length

theorem Risk.describes_ofWords (arguments : List Text) :
    (ofWords arguments).Describes arguments := by
  rw [ofWords_eq]
  constructor
  · rw [List.any_eq_true]
    refine exists_congr fun word => and_congr_right fun mem => ?_
    exact recursive_flagEffects_iff (isOptionLike_of_mem_options mem)
  · rw [List.any_eq_true]
    refine exists_congr fun word => and_congr_right fun mem => ?_
    exact force_flagEffects_iff (isOptionLike_of_mem_options mem)
  · simp only [List.any_eq_true, isWildcard_iff]
  · rfl

theorem Risk.ofCommand?_of_split {command : Text} {arguments : List Text}
    (split : (Prefix.split (words command.trim)).2 = deleteCommand :: arguments) :
    ofCommand? command = some (ofWords arguments) := by
  rw [ofCommand?, split]
  exact if_pos rfl

/-- A command has a risk exactly if its program is the delete command. -/
theorem Risk.isSome_ofCommand?_iff {command : Text} :
    (ofCommand? command).isSome = true ↔
      (Prefix.split (words command.trim)).2.head? = some deleteCommand := by
  rw [ofCommand?]
  split <;> rename_i eq
  · simp [eq]
  · simp [eq]

/-- What a level refuses: the normal one a forced and recursive delete, every other one each delete
that is recursive or of a wildcard. -/
theorem Risk.isSome_danger?_iff (risk : Risk) (level : Text) :
    (risk.danger? (.ofText level)).isSome = true ↔
      if level = "normal" then risk.recursive = true ∧ risk.force = true
      else risk.recursive = true ∨ risk.wildcard = true := by
  by_cases normal : level = "normal"
  · rw [Level.ofText, if_pos normal, if_pos normal]
    cases recursive : risk.recursive <;> cases force : risk.force <;>
      simp [danger?, recursive, force]
  · rw [Level.ofText, if_neg normal, if_neg normal]
    cases recursive : risk.recursive <;> cases wildcard : risk.wildcard <;>
      simp [danger?, recursive, wildcard]

/-- A delete is judged by what its words say: its risk describes them, and the risk alone decides
whether a level refuses it.  No other command is refused, and what the normal level refuses is
refused at every level. -/
theorem judge_meets_policy (command : Text) :
    (∀ arguments, (Prefix.split (words command.trim)).2 = deleteCommand :: arguments →
        ∃ risk, Risk.ofCommand? command = some risk ∧ risk.Describes arguments ∧
          ∀ level : Text, (judge command (.ofText level)).isSome = true ↔
            if level = "normal" then risk.recursive = true ∧ risk.force = true
            else risk.recursive = true ∨ risk.wildcard = true) ∧
      ((Prefix.split (words command.trim)).2.head? ≠ some deleteCommand →
        ∀ level, judge command level = none) ∧
      ((judge command (.ofText "normal")).isSome = true →
        ∀ level, (judge command level).isSome = true) := by
  refine ⟨fun arguments split => ?_, fun other level => ?_, fun refused level => ?_⟩
  · have risk := Risk.ofCommand?_of_split split
    refine ⟨_, risk, Risk.describes_ofWords arguments, fun level => ?_⟩
    rw [judge, risk]
    exact Risk.isSome_danger?_iff _ level
  · rw [ne_eq, ← Risk.isSome_ofCommand?_iff, Option.not_isSome_iff_eq_none] at other
    rw [judge, other]
    rfl
  · cases found : Risk.ofCommand? command with
    | none => simp [judge, found] at refused
    | some risk =>
        rw [judge, found] at refused ⊢
        have dangerous := (risk.isSome_danger?_iff "normal").mp refused
        cases level with
        | normal => exact refused
        | strict => exact (risk.isSome_danger?_iff "strict").mpr (Or.inl dangerous.1)

/-- The quoted star counts, and so does the force that an unknown cluster asks for; a dash alone and
what follows the double dash are operands. -/
example : Risk.ofCommand? " A=1 sudo -u rm rm - -xf -- --recursive '*' " =
    some ⟨false, true, true, 3⟩ := by
  decide

end SafeDelete
