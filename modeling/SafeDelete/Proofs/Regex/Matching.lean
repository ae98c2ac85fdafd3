/-
Module: SafeDelete.Proofs.Regex.Matching
Purpose: Where the parts of a pattern's expression lead, and that the expression accepts the texts
  that the pattern accepts.
Main exports: Regex.Leads, Regex.Trial.IsUnderway, Regex.Trial.HasRun, Regex.leads_run,
  Glob.accepts_program
-/
import Mathlib.Tactic.Common
import SafeDelete.Proofs.Regex.Reading
import SafeDelete.Proofs.Text.Glob
import SafeDelete.Regex.Match

namespace SafeDelete

namespace Regex

/-- A place that was reached without groups and errors. -/
def Outcome.reached (position : Nat) : Outcome :=
  ⟨position, [], .none⟩

/-- Forward and without errors, the expression leads from a place in the text to those that the
relation tells, and to no other. -/
structure Leads (text : Array Char) (regex : Regex) (way : Nat → Nat → Prop) : Prop where
  within : ∀ first last, way first last → first ≤ text.size → last ≤ text.size
  found : ∀ groups call before,
    (∀ outcome ∈ before, ∃ first, first ≤ text.size ∧ outcome = .reached first) →
      ∀ outcome, outcome ∈ (outcomes text groups call ⟨false, none⟩ regex before).found ↔
        ∃ first last, .reached first ∈ before ∧ way first last ∧ outcome = .reached last

variable {text : Array Char}

/-! ### Single parts -/

theorem next?_reached (text : Array Char) (first : Nat) :
    next? text false (.reached first) =
      (text[first]?).map fun c => (c, .reached (first + 1)) :=
  rfl

theorem leads_one (set : CharSet) :
    Leads text (.one .exact set) fun first last =>
      (∃ c, text[first]? = some c ∧ set.admits .exact c = true) ∧ last = first + 1 where
  within := by
    rintro first last ⟨⟨c, there, -⟩, rfl⟩ -
    obtain ⟨small, -⟩ := Array.getElem?_eq_some_iff.mp there
    exact small
  found := by
    intro groups call before reached outcome
    rw [outcomes, Outcomes.of, List.mem_flatMap]
    constructor
    · rintro ⟨start, mem, read⟩
      obtain ⟨first, -, rfl⟩ := reached start mem
      simp only [readOne, withSlips, next?_reached] at read
      cases there : text[first]? with
      | none => simp [there] at read
      | some c =>
          simp only [there, Option.map_some] at read
          split at read
          · rename_i admitted
            exact ⟨first, _, mem, ⟨⟨c, there, admitted⟩, rfl⟩, List.mem_singleton.mp read⟩
          · contradiction
    · rintro ⟨first, last, mem, ⟨⟨c, there, admitted⟩, rfl⟩, rfl⟩
      refine ⟨_, mem, ?_⟩
      simp only [readOne, withSlips, next?_reached, there, Option.map_some, if_pos admitted]
      exact List.mem_singleton.mpr rfl

theorem leads_anchor (asked : Anchor) :
    Leads text (.anchor asked) fun first last =>
      asked.admits text first = true ∧ last = first where
  within := by
    rintro first last ⟨-, rfl⟩ small
    exact small
  found := by
    intro groups call before reached outcome
    rw [outcomes, Outcomes.of, List.mem_flatMap]
    constructor
    · rintro ⟨start, mem, read⟩
      obtain ⟨first, -, rfl⟩ := reached start mem
      simp only [withSlips] at read
      split at read
      · rename_i admitted
        exact ⟨first, first, mem, ⟨admitted, rfl⟩, List.mem_singleton.mp read⟩
      · contradiction
    · rintro ⟨first, last, mem, ⟨admitted, rfl⟩, rfl⟩
      refine ⟨_, mem, ?_⟩
      have here : asked.admits text (Outcome.reached last).position = true := admitted
      simp only [withSlips, if_pos here]
      exact List.mem_singleton.mpr rfl

theorem Leads.sequence {first second : Regex} {way onward : Nat → Nat → Prop}
    (leads : Leads text first way) (further : Leads text second onward) :
    Leads text (.sequence first second) fun start finish =>
      ∃ middle, way start middle ∧ onward middle finish where
  within := by
    rintro start finish ⟨middle, before, after⟩ small
    exact further.within _ _ after (leads.within _ _ before small)
  found := by
    intro groups call before reached outcome
    have middle := leads.found groups call before reached
    have between : ∀ outcome ∈ (outcomes text groups call ⟨false, none⟩ first before).found,
        ∃ place, place ≤ text.size ∧ outcome = .reached place := by
      intro outcome mem
      obtain ⟨start, place, there, goes, rfl⟩ := (middle outcome).mp mem
      obtain ⟨start', small, same⟩ := reached _ there
      obtain rfl : start = start' := congrArg Outcome.position same
      exact ⟨place, leads.within _ _ goes small, rfl⟩
    rw [outcomes]
    refine (further.found groups call _ between outcome).trans ?_
    constructor
    · rintro ⟨place, finish, mem, onwards, rfl⟩
      obtain ⟨start, place', there, goes, same⟩ := (middle _).mp mem
      obtain rfl : place = place' := congrArg Outcome.position same
      exact ⟨start, finish, there, ⟨place, goes, onwards⟩, rfl⟩
    · rintro ⟨start, finish, there, ⟨place, goes, onwards⟩, rfl⟩
      exact ⟨place, finish, (middle _).mpr ⟨start, place, there, goes, rfl⟩, onwards, rfl⟩

/-! ### Any characters, or none

A run of any characters is tried from a place by going on to the next one first.  Each place that was
tried is marked, and no marked place is tried again, so a mark is only of use once the places behind it
were found.
-/

namespace Collection

/-- The members are the outcomes in the list. -/
def IsKept (collection : Collection) : Prop :=
  ∀ outcome, collection.members.contains outcome = true ↔ outcome ∈ collection.reversed

theorem isKept_none : IsKept .none := by
  intro outcome
  simp [Collection.none]

variable {collection : Collection} {outcome other : Outcome}

theorem IsKept.mem_add (kept : collection.IsKept) :
    other ∈ (collection.add outcome).reversed ↔ other ∈ collection.reversed ∨ other = outcome := by
  rw [add]
  split
  · rename_i there
    have mem := (kept outcome).mp there
    constructor
    · exact Or.inl
    · rintro (old | rfl)
      · exact old
      · exact mem
  · rw [List.mem_cons, or_comm]

theorem IsKept.add (kept : collection.IsKept) : (collection.add outcome).IsKept := by
  intro other
  rw [kept.mem_add, ← kept other, Collection.add]
  split
  · rename_i there
    constructor
    · exact Or.inl
    · rintro (old | rfl)
      · exact old
      · exact there
  · rw [Std.HashSet.contains_insert, Bool.or_eq_true, beq_iff_eq, or_comm, @eq_comm _ outcome]

end Collection

namespace Trial

/-- The place was tried in a run of any characters. -/
def HasTried (trial : Trial) (place : Nat) : Prop :=
  trial.seen.contains (0, none, .reached place) = true

/-- What is known while a run of any characters is tried in a text of this length: behind each place
from the least one on that was tried, every place was found. -/
structure IsUnderway (length least : Nat) (trial : Trial) : Prop where
  unsettled : trial.settled = false
  kept : trial.found.IsKept
  behind : ∀ place, least ≤ place → trial.HasTried place →
    ∀ last, place ≤ last → last ≤ length → .reached last ∈ trial.found.reversed

/-- A run of any characters was tried from a place on: it found that place and every one behind it. -/
structure HasRun (length first : Nat) (trial later : Trial) : Prop where
  unsettled : later.settled = false
  kept : later.found.IsKept
  found : ∀ outcome, outcome ∈ later.found.reversed ↔ outcome ∈ trial.found.reversed ∨
    ∃ last, first ≤ last ∧ last ≤ length ∧ outcome = .reached last
  tried : ∀ place, later.HasTried place → trial.HasTried place ∨ first ≤ place

variable {length least first : Nat} {trial later : Trial}

theorem isUnderway_start (length : Nat) : IsUnderway length 0 ⟨∅, .none, false⟩ where
  unsettled := rfl
  kept := Collection.isKept_none
  behind := by
    intro place _ tried
    simp [HasTried] at tried

theorem IsUnderway.mono {more : Nat} (underway : IsUnderway length least trial)
    (le : least ≤ more) : IsUnderway length more trial :=
  ⟨underway.unsettled, underway.kept, fun place above => underway.behind place (le.trans above)⟩

theorem IsUnderway.of_hasRun (underway : IsUnderway length least trial)
    (run : HasRun length first trial later) : IsUnderway length least later where
  unsettled := run.unsettled
  kept := run.kept
  behind := by
    intro place above tried last behind small
    rcases run.tried place tried with before | here
    · exact (run.found _).mpr (Or.inl (underway.behind place above before last behind small))
    · exact (run.found _).mpr (Or.inr ⟨last, here.trans behind, small, rfl⟩)

/-- The trial with one more place marked. -/
def marking (trial : Trial) (place : Nat) : Trial :=
  { trial with seen := trial.seen.insert (0, none, .reached place) }

theorem hasTried_marking {place other : Nat} :
    (trial.marking place).HasTried other ↔ other = place ∨ trial.HasTried other := by
  have same : ((0, none, Outcome.reached place) : Nat × Option Nat × Outcome) =
      (0, none, .reached other) ↔ other = place := by
    constructor
    · intro eq
      exact (congrArg (fun key => key.2.2.position) eq).symm
    · rintro rfl
      rfl
  rw [HasTried, marking, Std.HashSet.contains_insert, Bool.or_eq_true, beq_iff_eq, same, HasTried]

theorem IsUnderway.marking (underway : IsUnderway length least trial) {place : Nat}
    (low : place < least) : IsUnderway length least (trial.marking place) where
  unsettled := underway.unsettled
  kept := underway.kept
  behind := by
    intro other above tried
    rcases hasTried_marking.mp tried with rfl | before
    · exact absurd low (Nat.not_lt.mpr above)
    · exact underway.behind other above before

/-- The trial goes on with the next place, and the place itself comes last. -/
theorem tryTimes_onward {step : Outcome → Outcomes} {fuel : Nat}
    (unsettled : trial.settled = false) (untried : ¬trial.HasTried first)
    (onward : step (.reached first) = .of [.reached (first + 1)]) :
    tryTimes step false (fuel + 1) 0 none trial (.reached first) =
      (tryTimes step false fuel 0 none (trial.marking first) (.reached (first + 1))).add
        (.reached first) := by
  have apart : (Outcome.reached (first + 1)).position ≠ (Outcome.reached first).position :=
    Nat.succ_ne_self first
  rw [HasTried] at untried
  simp [tryTimes, unsettled, untried, onward, Outcomes.of, apart, marking]

theorem tryTimes_end {step : Outcome → Outcomes} {fuel : Nat}
    (unsettled : trial.settled = false) (untried : ¬trial.HasTried first)
    (ends : step (.reached first) = .of []) :
    tryTimes step false (fuel + 1) 0 none trial (.reached first) =
      (trial.marking first).add (.reached first) := by
  rw [HasTried] at untried
  simp [tryTimes, unsettled, untried, ends, Outcomes.of, marking]

theorem tryTimes_of_hasTried {step : Outcome → Outcomes} {fuel : Nat}
    (tried : trial.HasTried first) :
    tryTimes step false (fuel + 1) 0 none trial (.reached first) = trial := by
  rw [HasTried] at tried
  simp [tryTimes, tried]

/-- Behind the end of the text there is nothing to find. -/
theorem IsUnderway.hasRun_nothing (underway : IsUnderway length least trial) :
    HasRun length (length + 1) trial trial where
  unsettled := underway.unsettled
  kept := underway.kept
  found := by
    intro outcome
    constructor
    · exact Or.inl
    · rintro (old | ⟨last, above, small, -⟩)
      · exact old
      · exact absurd above (Nat.not_lt.mpr small)
  tried := fun _ => Or.inl

theorem HasRun.add (run : HasRun length (first + 1) (trial.marking first) later)
    (within : first ≤ length) : HasRun length first trial (later.add (.reached first)) := by
  have added : later.add (.reached first) =
      { later with found := later.found.add (.reached first) } := by
    rw [Trial.add, run.unsettled, if_neg Bool.false_ne_true]
  rw [added]
  refine ⟨run.unsettled, run.kept.add, fun outcome => ?_, fun place tried => ?_⟩
  · rw [run.kept.mem_add, run.found, or_assoc]
    refine or_congr_right ?_
    constructor
    · rintro (⟨last, above, small, rfl⟩ | rfl)
      · exact ⟨last, Nat.le_of_succ_le above, small, rfl⟩
      · exact ⟨first, Nat.le_refl _, within, rfl⟩
    · rintro ⟨last, above, small, rfl⟩
      rcases Nat.eq_or_lt_of_le above with rfl | behind
      · exact Or.inr rfl
      · exact Or.inl ⟨last, behind, small, rfl⟩
  · rcases run.tried place tried with before | behind
    · rcases hasTried_marking.mp before with rfl | before
      · exact Or.inr (Nat.le_refl _)
      · exact Or.inl before
    · exact Or.inr (Nat.le_of_succ_le behind)

section

variable {step : Outcome → Outcomes} {fuel : Nat}
  (onward : ∀ place < length, step (.reached place) = .of [.reached (place + 1)])
  (ends : step (.reached length) = .of [])

include onward ends

/-- Trying a run from a place finds that place and every one behind it. -/
theorem hasRun_tryTimes (enough : length < first + fuel) (within : first ≤ length)
    (underway : IsUnderway length first trial) :
    HasRun length first trial (tryTimes step false fuel 0 none trial (.reached first)) := by
  induction fuel generalizing first trial with
  | zero => exact absurd enough (Nat.not_lt.mpr within)
  | succ fuel ih =>
      by_cases tried : trial.HasTried first
      · rw [tryTimes_of_hasTried tried]
        refine ⟨underway.unsettled, underway.kept, fun outcome => ?_, fun place => Or.inl⟩
        constructor
        · exact Or.inl
        · rintro (old | ⟨last, above, small, rfl⟩)
          · exact old
          · exact underway.behind first (Nat.le_refl _) tried last above small
      have marked : IsUnderway length (first + 1) (trial.marking first) :=
        (underway.mono (Nat.le_succ first)).marking (Nat.lt_succ_self first)
      rcases Nat.eq_or_lt_of_le within with rfl | small
      · rw [tryTimes_end underway.unsettled tried ends]
        exact marked.hasRun_nothing.add within
      · rw [tryTimes_onward underway.unsettled tried (onward first small)]
        exact (ih (by omega) small marked).add within

/-- From each of some places, a run finds that place and every one behind it. -/
theorem mem_repeatStep {before : List Outcome}
    (reached : ∀ outcome ∈ before, ∃ first, first ≤ length ∧ outcome = .reached first)
    (outcome : Outcome) :
    outcome ∈ (repeatStep length step false 0 none before).found ↔
      ∃ first last, .reached first ∈ before ∧ (first ≤ last ∧ last ≤ length) ∧
        outcome = .reached last := by
  have tried : ∀ trial, IsUnderway length 0 trial →
      (outcome ∈ (before.foldl (tryTimes step false (2 * length + 2) 0 none) trial).found.reversed ↔
        outcome ∈ trial.found.reversed ∨ ∃ first last, .reached first ∈ before ∧
          (first ≤ last ∧ last ≤ length) ∧ outcome = .reached last) := by
    induction before with
    | nil => simp
    | cons start rest ih =>
        intro trial underway
        obtain ⟨first, within, rfl⟩ := reached start List.mem_cons_self
        have run : HasRun length first trial
            (tryTimes step false (2 * length + 2) 0 none trial (.reached first)) :=
          hasRun_tryTimes onward ends (by omega) within (underway.mono (Nat.zero_le first))
        have later := ih (fun outcome mem => reached outcome (List.mem_cons_of_mem _ mem)) _
          (underway.of_hasRun run)
        rw [List.foldl_cons, later, run.found, or_assoc]
        refine or_congr_right ?_
        constructor
        · rintro (⟨last, above, small, rfl⟩ | ⟨place, last, mem, between, rfl⟩)
          · exact ⟨first, last, List.mem_cons_self, ⟨above, small⟩, rfl⟩
          · exact ⟨place, last, List.mem_cons_of_mem _ mem, between, rfl⟩
        · rintro ⟨place, last, mem, between, rfl⟩
          rcases List.mem_cons.mp mem with same | mem
          · obtain rfl : place = first := congrArg Outcome.position same
            exact Or.inl ⟨last, between.1, between.2, rfl⟩
          · exact Or.inr ⟨place, last, mem, between, rfl⟩
  rw [repeatStep, Collection.toList, List.mem_reverse, tried _ (isUnderway_start length)]
  simp [Collection.none]

end

end Trial

theorem admits_all (c : Char) : CharSet.all.admits .exact c = true := by
  have small : c.toNat ≤ 0x10FFFF := by
    rcases c.valid with low | ⟨-, high⟩
    · exact Nat.le_of_lt (low.trans (by decide))
    · exact Nat.le_of_lt_succ high
  simp [CharSet.admits, CaseRule.variants, CharSet.all, CharSet.admitsAny, small]

theorem admits_only_iff {c d : Char} : (CharSet.only c).admits .exact d = true ↔ d = c := by
  have same : (CharSet.only c).admits .exact d = true ↔ c.toNat ≤ d.toNat ∧ d.toNat ≤ c.toNat := by
    simp [CharSet.admits, CaseRule.variants, CharSet.only, CharSet.admitsAny]
  rw [same]
  constructor
  · rintro ⟨least, most⟩
    exact Char.toNat_inj.mp (Nat.le_antisymm most least)
  · rintro rfl
    exact ⟨Nat.le_refl _, Nat.le_refl _⟩

theorem leads_run : Leads text GlobPiece.run.toRegex fun first last =>
    first ≤ last ∧ last ≤ text.size where
  within := fun _ _ between _ => between.2
  found := by
    intro groups call before reached outcome
    have point : ∀ place, (outcomes text groups call ⟨false, none⟩ (.one .exact .all)
        [.reached place]) = .of ((text[place]?).map fun _ => .reached (place + 1)).toList := by
      intro place
      rw [outcomes, List.flatMap_singleton, readOne, withSlips]
      simp only [next?_reached]
      cases text[place]? with
      | none => rfl
      | some c =>
          simp only [Option.map_some, admits_all, if_true]
          rfl
    have onward : ∀ place < text.size, (outcomes text groups call ⟨false, none⟩
        (.one .exact .all) [.reached place]) = .of [.reached (place + 1)] := by
      intro place small
      rw [point, Array.getElem?_eq_getElem small]
      rfl
    have ends : (outcomes text groups call ⟨false, none⟩ (.one .exact .all)
        [.reached text.size]) = .of [] := by
      rw [point, Array.getElem?_size]
      rfl
    exact Trial.mem_repeatStep onward ends reached outcome

theorem Leads.congr {regex : Regex} {way other : Nat → Nat → Prop}
    (leads : Leads text regex way) (same : ∀ first last, way first last ↔ other first last) :
    Leads text regex other := by
  have eq : way = other := funext fun first => funext fun last => propext (same first last)
  exact eq ▸ leads

end Regex

/-! ### Whole patterns -/

/-- A piece leads from one place of a text to another. -/
def GlobPiece.Spans (text : Text) (first last : Nat) : GlobPiece → Prop
  | .run => first ≤ last ∧ last ≤ text.length
  | .one => (∃ c, text[first]? = some c) ∧ last = first + 1
  | .exactly c => text[first]? = some c ∧ last = first + 1

namespace Glob

open Regex

/-- The pieces lead, one after the other, from one place of a text to another. -/
def Spans (text : Text) : Glob → Nat → Nat → Prop
  | [], first, last => first = last
  | piece :: glob, first, last => ∃ middle, piece.Spans text first middle ∧ Spans text glob middle last

variable {text : Text}

theorem leads_piece (piece : GlobPiece) :
    Leads text.toArray piece.toRegex fun first last => piece.Spans text first last := by
  cases piece with
  | run => exact leads_run.congr fun first last => by simp [GlobPiece.Spans]
  | one => exact (leads_one .all).congr fun first last => by simp [GlobPiece.Spans, admits_all]
  | exactly c =>
      refine (leads_one (.only c)).congr fun first last => ?_
      simp only [admits_only_iff, GlobPiece.Spans, List.getElem?_toArray]
      constructor
      · rintro ⟨⟨d, there, rfl⟩, rfl⟩
        exact ⟨there, rfl⟩
      · rintro ⟨there, rfl⟩
        exact ⟨⟨c, there, rfl⟩, rfl⟩

theorem leads_pieces (glob : Glob) :
    Leads text.toArray (inSequence (glob.map GlobPiece.toRegex ++ [.anchor .lastLine]))
      fun first last => glob.Spans text first last ∧
        Anchor.lastLine.admits text.toArray last = true := by
  induction glob with
  | nil =>
      refine (leads_anchor .lastLine).congr fun first last => ?_
      constructor
      · rintro ⟨admitted, rfl⟩
        exact ⟨rfl, admitted⟩
      · rintro ⟨rfl, admitted⟩
        exact ⟨admitted, rfl⟩
  | cons piece glob ih =>
      have split : inSequence ((piece :: glob).map GlobPiece.toRegex ++ [.anchor .lastLine]) =
          .sequence piece.toRegex
            (inSequence (glob.map GlobPiece.toRegex ++ [.anchor .lastLine])) := by
        cases glob <;> rfl
      rw [split]
      refine ((leads_piece piece).sequence ih).congr fun first last => ?_
      constructor
      · rintro ⟨middle, here, later, admitted⟩
        exact ⟨⟨middle, here, later⟩, admitted⟩
      · rintro ⟨⟨middle, here, later⟩, admitted⟩
        exact ⟨middle, here, later, admitted⟩

theorem accepts_program_iff_spans (glob : Glob) (text : Text) :
    glob.program.accepts text = true ↔ glob.Spans text 0 text.length := by
  have split : glob.program.whole = .sequence (.anchor .start)
      (inSequence (glob.map GlobPiece.toRegex ++ [.anchor .lastLine])) := by
    cases glob <;> rfl
  have whole := (@leads_anchor text.toArray .start).sequence (leads_pieces glob)
  have start : ∀ outcome ∈ [Outcome.reached 0],
      ∃ first, first ≤ text.toArray.size ∧ outcome = .reached first := by
    intro outcome mem
    exact ⟨0, Nat.zero_le _, List.mem_singleton.mp mem⟩
  have found := whole.found ⟨0, []⟩ (glob.program.callWithin text.toArray
    ((text.toArray.size + 1) * (0 + 1))) [.reached 0] start
  rw [← split] at found
  have accepts : glob.program.accepts text = true ↔ ∃ outcome,
      outcome ∈ (outcomes text.toArray ⟨0, []⟩ (glob.program.callWithin text.toArray
        ((text.toArray.size + 1) * (0 + 1))) ⟨false, none⟩ glob.program.whole
        [.reached 0]).found ∧ (outcome.position == text.toArray.size) = true :=
    List.any_eq_true
  rw [accepts]
  constructor
  · rintro ⟨outcome, mem, finish⟩
    obtain ⟨first, last, here, ⟨middle, ⟨-, rfl⟩, spans, -⟩, rfl⟩ := (found outcome).mp mem
    obtain rfl : middle = 0 := congrArg Outcome.position (List.mem_singleton.mp here)
    obtain rfl : last = text.length := by simpa [Outcome.reached] using finish
    exact spans
  · intro spans
    refine ⟨.reached text.length, (found _).mpr ⟨0, text.length, List.mem_singleton.mpr rfl,
      ⟨0, ⟨rfl, rfl⟩, spans, ?_⟩, rfl⟩, ?_⟩
    · simp [Anchor.admits]
    · simp [Outcome.reached]

theorem drop_eq_cons_iff {first : Nat} {c : Char} {back : Text} :
    text.drop first = c :: back ↔ text[first]? = some c ∧ text.drop (first + 1) = back := by
  constructor
  · intro eq
    have there : (text.drop first)[0]? = some c := by rw [eq]; rfl
    rw [List.getElem?_drop, Nat.add_zero] at there
    exact ⟨there, by rw [← List.drop_drop, eq]; rfl⟩
  · rintro ⟨there, rfl⟩
    obtain ⟨small, rfl⟩ := List.getElem?_eq_some_iff.mp there
    exact List.drop_eq_getElem_cons small

/-- The pieces lead from a place to the end where the pattern accepts what is left of the text. -/
theorem spans_iff_accepts {glob : Glob} {first : Nat} (within : first ≤ text.length) :
    glob.Spans text first text.length ↔ glob.accepts (text.drop first) = true := by
  induction glob generalizing first with
  | nil =>
      rw [accepts_nil, List.isEmpty_iff, List.drop_eq_nil_iff, Spans]
      omega
  | cons piece glob ih =>
      rw [accepts_cons, Spans]
      cases piece with
      | run =>
          rw [asks_run_iff]
          constructor
          · rintro ⟨middle, ⟨above, small⟩, later⟩
            refine ⟨(text.drop first).take (middle - first), text.drop middle, ?_, (ih small).mp later⟩
            rw [← Nat.add_sub_cancel' above, Nat.add_sub_cancel_left, ← List.drop_drop,
              List.take_append_drop]
          · rintro ⟨front, back, eq, accepted⟩
            have length := congrArg List.length eq
            rw [List.length_drop, List.length_append] at length
            have small : first + front.length ≤ text.length := by omega
            refine ⟨first + front.length, ⟨Nat.le_add_right _ _, small⟩, (ih small).mpr ?_⟩
            rw [← List.drop_drop, eq, List.drop_left]
            exact accepted
      | one =>
          rw [asks_one_iff]
          constructor
          · rintro ⟨middle, ⟨⟨c, there⟩, rfl⟩, later⟩
            have small := (List.getElem?_eq_some_iff.mp there).choose
            exact ⟨c, _, drop_eq_cons_iff.mpr ⟨there, rfl⟩, (ih small).mp later⟩
          · rintro ⟨c, back, eq, accepted⟩
            obtain ⟨there, rfl⟩ := drop_eq_cons_iff.mp eq
            have small := (List.getElem?_eq_some_iff.mp there).choose
            exact ⟨first + 1, ⟨⟨c, there⟩, rfl⟩, (ih small).mpr accepted⟩
      | exactly c =>
          rw [asks_exactly_iff]
          constructor
          · rintro ⟨middle, ⟨there, rfl⟩, later⟩
            have small := (List.getElem?_eq_some_iff.mp there).choose
            exact ⟨_, drop_eq_cons_iff.mpr ⟨there, rfl⟩, (ih small).mp later⟩
          · rintro ⟨back, eq, accepted⟩
            obtain ⟨there, rfl⟩ := drop_eq_cons_iff.mp eq
            have small := (List.getElem?_eq_some_iff.mp there).choose
            exact ⟨first + 1, ⟨there, rfl⟩, (ih small).mpr accepted⟩

/-- The expression of a pattern accepts what the pattern accepts. -/
theorem accepts_program (glob : Glob) (text : Text) :
    glob.program.accepts text = glob.accepts text := by
  rw [Bool.eq_iff_iff, accepts_program_iff_spans, spans_iff_accepts (Nat.zero_le _), List.drop_zero]

end Glob

end SafeDelete
