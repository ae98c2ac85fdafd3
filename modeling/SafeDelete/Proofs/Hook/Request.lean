/-
Module: SafeDelete.Proofs.Hook.Request
Purpose: Which texts hold a request, and what becomes of a request whose command is replaced.
Main exports: Request.IsReadFrom, Request.read_of_isReadFrom, Request.read_of_not_isReadFrom,
  Request.read_eq_error_iff, Request.ReplacesCommand, Request.replacesCommand_withCommand,
  Request.isReadable_withCommand
-/
import SafeDelete.Hook.Request
import SafeDelete.Proofs.Json.RoundTrip
import SafeDelete.Proofs.Text.Trim

namespace SafeDelete

/-! ## Blank input -/

namespace Json

theorem ne_of_isBlank {c d : Char} (blank : SafeDelete.isBlank c = true)
    (solid : SafeDelete.isBlank d = false) : c ≠ d := by
  rintro rfl
  exact Bool.false_ne_true (solid.symm.trans blank)

theorem isDigit_of_isBlank {c : Char} (blank : SafeDelete.isBlank c = true) :
    isDigit c = false := by
  by_contra digit
  simp only [isDigit, Bool.not_eq_false, Bool.and_eq_true, decide_eq_true_eq] at digit
  have least : 48 ≤ c.toNat := digit.1
  have most : c.toNat ≤ 57 := digit.2
  simp [SafeDelete.isBlank] at blank
  omega

theorem readNumber?_of_isBlank {c : Char} (blank : SafeDelete.isBlank c = true) (row : Text) :
    readNumber? (c :: row) = none := by
  have noMinus : spanMinus (c :: row) = (false, c :: row) := by
    rw [spanMinus]
    intro _ same
    exact ne_of_isBlank blank rfl (List.cons.inj same).1
  have noWhole : spanWhole (c :: row) = ([], c :: row) := by
    rw [spanWhole, spanDigits]
    · simp [isDigit_of_isBlank blank]
    · intro _ same
      exact ne_of_isBlank blank rfl (List.cons.inj same).1
  rw [readNumber?, noMinus]
  simp only [noWhole]

theorem readLiteral?_of_isBlank {c : Char} (blank : SafeDelete.isBlank c = true) (row : Text) :
    readLiteral? (c :: row) = none := by
  have other : ∀ d, SafeDelete.isBlank d = false → d ≠ c := fun d solid =>
    (ne_of_isBlank blank solid).symm
  simp [readLiteral?, literals, Text.startsWith, other 'n' rfl, other 't' rfl, other 'f' rfl,
    other 'N' rfl, other 'I' rfl, other '-' rfl]

theorem readValue_of_isBlank {text : Text} (blank : Text.isBlank text = true) (fuel : Nat) :
    readValue fuel text = .error (.fault .value text) := by
  cases fuel with
  | zero => rfl
  | succ fuel =>
      cases text with
      | nil => rfl
      | cons c row =>
          have first : SafeDelete.isBlank c = true :=
            Text.isBlank_iff.mp blank c List.mem_cons_self
          have scalar := @readValue_readScalar c fuel row (ne_of_isBlank first rfl)
            (ne_of_isBlank first rfl) (ne_of_isBlank first rfl)
          rw [scalar, readScalar, readLiteral?_of_isBlank first, readNumber?_of_isBlank first]

/-- Blank text is no JSON: it has no value in it, and no number either. -/
theorem parse_of_isBlank {text : Text} (blank : Text.isBlank text = true) :
    ∃ fault place, parse text = .error (.malformed fault place) := by
  have skipped : Text.isBlank (skipSpace text) = true :=
    Text.isBlank_iff.mpr fun c mem =>
      Text.isBlank_iff.mp blank c ((List.dropWhile_sublist _).subset mem)
  rw [parse, readDocument, readValue_of_isBlank skipped (enoughFuel text)]
  by_cases marked : Text.startsWith ['\ufeff'] text = true
  · rw [if_pos marked]
    exact ⟨_, _, rfl⟩
  · rw [if_neg marked]
    exact ⟨_, _, rfl⟩

end Json

namespace Request

open Json

variable {request other : Request} {stdin rewritten : Text} {host : Host} {files : FileSystem}

/-! ## Reading a request -/

/-- The text is a JSON object, and the command is the one of the tool's input in it. -/
structure IsReadFrom (request : Request) (stdin : Text) : Prop where
  object : Json.parse stdin = .ok (.obj request.fields)
  input : Fields.get? "tool_input" request.fields = some (.obj request.input)
  command : Fields.get? "command" request.input = some (.str request.command)
  nonempty : request.command ≠ []

theorem ofJson?_eq_some_iff {value : Json} :
    ofJson? value = some request ↔
      value = .obj request.fields ∧
      Fields.get? "tool_input" request.fields = some (.obj request.input) ∧
      Fields.get? "command" request.input = some (.str request.command) ∧
      request.command ≠ [] := by
  constructor
  · intro asked
    unfold ofJson? at asked
    split at asked
    · split at asked
      · split at asked
        · split at asked
          · contradiction
          · rename_i input _ _ command nonempty
            obtain rfl := Option.some.inj asked
            exact ⟨rfl, input, command, fun empty => nonempty (List.isEmpty_iff.mpr empty)⟩
        · contradiction
      · contradiction
    · contradiction
  · rintro ⟨rfl, input, command, nonempty⟩
    have filled : ¬request.command.isEmpty = true := by rwa [List.isEmpty_iff]
    simp only [ofJson?, input, command, if_neg filled]

theorem isReadFrom_iff :
    request.IsReadFrom stdin ↔
      ∃ value, Json.parse stdin = .ok value ∧ ofJson? value = some request := by
  constructor
  · intro asked
    exact ⟨_, asked.object, ofJson?_eq_some_iff.mpr
      ⟨rfl, asked.input, asked.command, asked.nonempty⟩⟩
  · rintro ⟨value, parsed, asked⟩
    obtain ⟨rfl, input, command, nonempty⟩ := ofJson?_eq_some_iff.mp asked
    exact ⟨parsed, input, command, nonempty⟩

/-- A text holds one request at most. -/
theorem IsReadFrom.unique (one : request.IsReadFrom stdin) (two : other.IsReadFrom stdin) :
    request = other := by
  obtain ⟨value, parsed, asked⟩ := isReadFrom_iff.mp one
  obtain ⟨same, parsedToo, askedToo⟩ := isReadFrom_iff.mp two
  obtain rfl := Except.ok.inj (parsed.symm.trans parsedToo)
  exact Option.some.inj (asked.symm.trans askedToo)

theorem read_of_isReadFrom (asked : request.IsReadFrom stdin) (host : Host) (files : FileSystem) :
    read host stdin files = .ok (some request) files := by
  have solid : ¬Text.isBlank stdin = true := by
    intro blank
    obtain ⟨fault, place, malformed⟩ := parse_of_isBlank blank
    exact absurd (malformed.symm.trans asked.object) (by simp)
  obtain ⟨value, parsed, found⟩ := isReadFrom_iff.mp asked
  rw [read, if_neg solid, parsed]
  simp only [found]
  rfl

/-- Without a request there is none to be had, unless a number in it is too long to be read. -/
theorem read_of_not_isReadFrom (unasked : ∀ request : Request, ¬request.IsReadFrom stdin)
    (host : Host) (files : FileSystem) :
    (∃ later, read host stdin files = .ok none later) ∨
      ∃ digits, read host stdin files = .error (.oversized digits) files := by
  unfold read
  split
  · exact .inl ⟨files, rfl⟩
  cases parsed : Json.parse stdin with
  | ok value =>
      have none : ofJson? value = none := by
        apply Option.eq_none_iff_forall_ne_some.mpr
        intro request found
        exact unasked request (isReadFrom_iff.mpr ⟨value, parsed, found⟩)
      exact .inl ⟨files, by simp only [none]; rfl⟩
  | error error =>
      cases error with
      | malformed fault place => exact .inl ⟨_, rfl⟩
      | oversized digits => exact .inr ⟨digits, rfl⟩

/-- Reading a request fails only where a number is too long, and leaves the files as they are. -/
theorem read_eq_error_iff {error : InputError} {later : FileSystem} :
    read host stdin files = .error error later ↔
      later = files ∧
        ∃ digits, Json.parse stdin = .error (.oversized digits) ∧ error = .oversized digits := by
  constructor
  · intro refused
    unfold read at refused
    split at refused
    · contradiction
    cases parsed : Json.parse stdin with
    | ok value =>
        rw [parsed] at refused
        contradiction
    | error fault =>
        rw [parsed] at refused
        cases fault with
        | malformed fault place => contradiction
        | oversized digits =>
            obtain ⟨rfl, rfl⟩ := EStateM.Result.error.inj refused
            exact ⟨rfl, digits, rfl, rfl⟩
  · rintro ⟨rfl, digits, long, rfl⟩
    have solid : ¬Text.isBlank stdin = true := by
      intro blank
      obtain ⟨fault, place, malformed⟩ := parse_of_isBlank blank
      exact absurd (malformed.symm.trans long) (by simp)
    rw [read, if_neg solid, long]
    rfl

/-! ## Replacing the command -/

/-- Fields with another command in the tool's input, and nothing else changed at either level. -/
def ReplacesCommand (request : Request) (rewritten : Text) (fields : Json.Fields) : Prop :=
  ∃ input, Fields.Replaces "tool_input" (.obj request.input) (.obj input) request.fields fields ∧
    Fields.Replaces "command" (.str request.command) (.str rewritten) request.input input

namespace IsReadFrom

theorem isReadable (asked : request.IsReadFrom stdin) : (Json.obj request.fields).IsReadable :=
  isReadable_of_parse asked.object

theorem isReadable_input (asked : request.IsReadFrom stdin) : (Json.obj request.input).IsReadable :=
  Fields.isReadable_of_get? asked.isReadable.2 asked.input

theorem isReadable_inputWith (asked : request.IsReadFrom stdin) (rewritten : Text) :
    (request.inputWith rewritten).IsReadable :=
  ⟨Fields.nodup_set asked.isReadable_input.1 _ _,
    Fields.haveReadable_set asked.isReadable_input.2 _ trivial⟩

theorem isReadable_withCommand (asked : request.IsReadFrom stdin) (rewritten : Text) :
    (request.withCommand rewritten).IsReadable :=
  ⟨Fields.nodup_set asked.isReadable.1 _ _,
    Fields.haveReadable_set asked.isReadable.2 _ (asked.isReadable_inputWith rewritten)⟩

theorem replaces_inputWith (asked : request.IsReadFrom stdin) (rewritten : Text) :
    ∃ input, request.inputWith rewritten = .obj input ∧
      Fields.Replaces "command" (.str request.command) (.str rewritten) request.input input :=
  ⟨_, rfl, Fields.replaces_set asked.isReadable_input.1 asked.command⟩

theorem replacesCommand_withCommand (asked : request.IsReadFrom stdin) (rewritten : Text) :
    ∃ fields, request.withCommand rewritten = .obj fields ∧
      request.ReplacesCommand rewritten fields := by
  obtain ⟨input, eq, replaces⟩ := asked.replaces_inputWith rewritten
  refine ⟨Fields.set "tool_input" (.obj input) request.fields, ?_, input, ?_, replaces⟩
  · rw [withCommand, eq]
  · exact Fields.replaces_set asked.isReadable.1 asked.input

end IsReadFrom

/-! ## A request to delete -/

/-- The input of a tool that is to delete. -/
def deleteInput : Json.Fields := [("command", .str "rm -rf build"), ("timeout", .int 60)]

/-- A request to delete, with other fields at both levels. -/
def deleting : Request where
  fields := [("session_id", .str "s"), ("tool_name", .str "Bash"), ("tool_input", .obj deleteInput)]
  input := deleteInput
  command := "rm -rf build"

/-- The request as a host may write it. -/
def deletingText : Text :=
  "\x7b\"session_id\": \"s\", \"tool_name\": \"Bash\", \"tool_input\": \x7b" ++
    "\"command\": \"rm -rf build\", \"timeout\": 60\x7d\x7d\n"

theorem isReadFrom_deletingText : deleting.IsReadFrom deletingText where
  object := by
    have written : deletingText = (Json.obj deleting.fields).render ++ "\n" := by decide
    have short : (Json.int 60).IsReadable := by
      change (decimal 60).length ≤ digitLimit
      decide
    have input : (Json.obj deleteInput).IsReadable :=
      ⟨by decide, trivial, short, trivial⟩
    rw [written]
    exact parse_render ⟨by decide, trivial, trivial, input, trivial⟩
  input := rfl
  command := rfl
  nonempty := by decide

end Request

end SafeDelete
