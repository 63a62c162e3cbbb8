import Querent.Proofs.Sql.Pattern

/-!
# Joins and their conditions

A query lacks a condition if it has the word for a join more often than joins that need no condition and
words that state one together.  A join without a condition is a join itself, so there are never more of
them, and as many if every join is led by a word that makes a condition needless.  What stands on the two
sides of a semicolon is counted apart.
-/

namespace Querent.Sql

open Text

/-! ## Joins among runs -/

section Runs

variable {words : List String} {front back : List (List Char)} {gap : List Char}

/-- Each join without a condition is a join, and not among the first two runs. -/
theorem unconditionedJoins_le (runs : List (List Char)) :
    unconditionedJoins runs ≤ wordCount ["join"] (runs.drop 2) := by
  induction runs with
  | nil => exact Nat.zero_le _
  | cons first others ih =>
    rcases others with _ | ⟨gap, _ | ⟨last, rest⟩⟩
    · exact Nat.zero_le _
    · exact Nat.zero_le _
    · rw [unconditionedJoins, List.drop_succ_cons, List.drop_succ_cons, List.drop_zero, wordCount,
        List.countP_cons, ← wordCount]
      apply Nat.add_le_add ih
      cases isOneOf ["join"] last with
      | true =>
        rw [if_pos rfl]
        split <;> omega
      | false =>
        rw [Bool.and_false]

theorem unconditionedJoins_last (front : List (List Char)) (leader gap last : List Char) :
    unconditionedJoins (front ++ [leader, gap, last]) =
      unconditionedJoins (front ++ [leader, gap]) +
        if isOneOf ["cross", "natural"] leader && gap.all isBlank && isOneOf ["join"] last then 1
        else 0 := by
  induction front with
  | nil => rfl
  | cons first front ih =>
    rcases front with _ | ⟨second, _ | ⟨third, front⟩⟩
    · exact congrArg (· + _) ih |>.trans (Nat.add_right_comm _ _ _)
    · exact congrArg (· + _) ih |>.trans (Nat.add_right_comm _ _ _)
    · exact congrArg (· + _) ih |>.trans (Nat.add_right_comm _ _ _)

theorem unconditionedJoins_mono (front : List (List Char)) (last : List Char) :
    unconditionedJoins front ≤ unconditionedJoins (front ++ [last]) := by
  induction front with
  | nil => exact Nat.zero_le _
  | cons first front ih =>
    rcases front with _ | ⟨second, _ | ⟨third, front⟩⟩
    · exact Nat.zero_le _
    · exact Nat.zero_le _
    · exact Nat.add_le_add_right ih _

/-- Joins are counted apart on both sides of a run that is neither a word nor blank. -/
theorem unconditionedJoins_append (outside : ∀ c ∈ gap, isWordChar c = false)
    (solid : gap.all isBlank = false) :
    unconditionedJoins (front ++ gap :: back) = unconditionedJoins front + unconditionedJoins back := by
  have noJoin : isOneOf ["join"] gap = false := isOneOf_of_outside (by decide) outside
  have noLeader : isOneOf ["cross", "natural"] gap = false := isOneOf_of_outside (by decide) outside
  have behind := unconditionedJoins_cons back noLeader
  induction front with
  | nil =>
    rw [List.nil_append, behind]
    exact (Nat.zero_add _).symm
  | cons first front ih =>
    rcases front with _ | ⟨second, _ | ⟨third, front⟩⟩
    · cases back with
      | nil => rfl
      | cons next back =>
        rw [List.cons_append, List.nil_append, unconditionedJoins, behind, solid, Bool.and_false,
          Bool.false_and]
        exact (Nat.zero_add _).symm
    · rw [List.cons_append, List.cons_append, List.nil_append, unconditionedJoins, noJoin,
        Bool.and_false]
      exact ih
    · rw [List.cons_append, List.cons_append, List.cons_append, unconditionedJoins,
        unconditionedJoins, Nat.add_right_comm]
      exact congrArg (· + _) ih

/-- A last run that is no word is of no join. -/
theorem unconditionedJoins_concat (outside : ∀ c ∈ gap, isWordChar c = false) :
    unconditionedJoins (front ++ [gap]) = unconditionedJoins front := by
  have noJoin : isOneOf ["join"] gap = false := isOneOf_of_outside (by decide) outside
  induction front with
  | nil => rfl
  | cons first front ih =>
    rcases front with _ | ⟨second, _ | ⟨third, front⟩⟩
    · rfl
    · rw [List.cons_append, List.cons_append, List.nil_append, unconditionedJoins, noJoin,
        Bool.and_false]
      rfl
    · rw [List.cons_append, List.cons_append, List.cons_append, unconditionedJoins,
        unconditionedJoins]
      exact congrArg (· + _) ih

/-- Runs of what is no word hold none of the words. -/
theorem wordCount_of_outside (small : Small words) (outside : ∀ c ∈ gap, isWordChar c = false) :
    wordCount words (runs gap) = 0 := by
  rcases runs_of_outside outside with rfl | ⟨-, single⟩
  · rfl
  · rw [single, wordCount, List.countP_singleton, isOneOf_of_outside small outside]
    rfl

end Runs

/-! ## A character between two texts -/

section Between

variable {words : List String} {mark : Char}

/-- Words are counted apart on both sides of a character that is part of no word. -/
theorem wordCount_around (small : Small words) (outside : isWordChar mark = false)
    (before after : List Char) :
    wordCount words (runs (before ++ mark :: after)) =
      wordCount words (runs before) + wordCount words (runs after) := by
  rcases exists_runs_around outside before after with
    ⟨front, gap, gap', rest, noWord, noWord', first, second, whole⟩
  have middle : isOneOf words (gap ++ mark :: gap') = false := by
    apply isOneOf_of_outside small
    simpa only [List.forall_mem_append, List.forall_mem_cons] using ⟨noWord, outside, noWord'⟩
  have none := wordCount_of_outside small noWord
  have none' := wordCount_of_outside small noWord'
  rw [first, second, whole]
  unfold wordCount at *
  rw [List.countP_append, List.countP_append, List.countP_append, List.countP_cons, middle, none, none']
  simp

theorem unconditionedJoins_around (outside : isWordChar mark = false) (solid : isBlank mark = false)
    (before after : List Char) :
    unconditionedJoins (runs (before ++ mark :: after)) =
      unconditionedJoins (runs before) + unconditionedJoins (runs after) := by
  rcases exists_runs_around outside before after with
    ⟨front, gap, gap', rest, noWord, noWord', first, second, whole⟩
  have middle : ∀ c ∈ gap ++ mark :: gap', isWordChar c = false := by
    simpa only [List.forall_mem_append, List.forall_mem_cons] using ⟨noWord, outside, noWord'⟩
  have notBlank : (gap ++ mark :: gap').all isBlank = false := by
    simp [solid]
  have start : unconditionedJoins (runs before) = unconditionedJoins (runs front) := by
    rcases runs_of_outside noWord with rfl | ⟨-, single⟩
    · rw [first]
      simp [runs]
    · rw [first, single, unconditionedJoins_concat noWord]
  have stop : unconditionedJoins (runs after) = unconditionedJoins (runs rest) := by
    rcases runs_of_outside noWord' with rfl | ⟨-, single⟩
    · rw [second]
      simp [runs]
    · rw [second, single, List.singleton_append,
        unconditionedJoins_cons _ (isOneOf_of_outside (by decide) noWord')]
  rw [whole, unconditionedJoins_append middle notBlank, start, stop]

end Between

/-! ## Counts in queries -/

/-- How often a query has the word for a join. -/
def joins (query : String) : Nat :=
  found [.boundary, .oneOf ["join"], .boundary] none 0 query.toList

/-- How often a query has a word for the condition of a join. -/
def conditions (query : String) : Nat :=
  found [.boundary, .oneOf ["on", "using"], .boundary] none 0 query.toList

/-- How often a query has a join that needs no condition. -/
def unconditioned (query : String) : Nat :=
  found crossJoin none 0 query.toList

theorem starts_none (text : List Char) : Starts none text :=
  fun _ _ _ => rfl

theorem joins_eq (query : String) : joins query = wordCount ["join"] (runs query.toList) :=
  found_word (by decide) _ _ (starts_none _)

theorem conditions_eq (query : String) :
    conditions query = wordCount ["on", "using"] (runs query.toList) :=
  found_word (by decide) _ _ (starts_none _)

theorem unconditioned_eq (query : String) :
    unconditioned query = unconditionedJoins (runs query.toList) :=
  found_crossJoin _ _ (starts_none _)

theorem lacksJoinCondition_iff {query : String} :
    lacksJoinCondition query = true ↔ unconditioned query + conditions query < joins query := by
  rw [lacksJoinCondition, decide_eq_true_iff, joins_eq, conditions_eq, unconditioned_eq]

theorem unconditioned_le_joins (query : String) : unconditioned query ≤ joins query := by
  rw [unconditioned_eq, joins_eq]
  exact (unconditionedJoins_le _).trans (List.Sublist.countP_le (List.drop_sublist 2 _))

/-- All three counts of two queries add up where a semicolon stands between them. -/
theorem counts_batched (first second : String) :
    joins (first ++ ";" ++ second) = joins first + joins second ∧
      unconditioned (first ++ ";" ++ second) = unconditioned first + unconditioned second ∧
      conditions (first ++ ";" ++ second) = conditions first + conditions second := by
  have whole : (first ++ ";" ++ second).toList = first.toList ++ ';' :: second.toList := by
    simp [String.toList_append]
  simp only [joins_eq, unconditioned_eq, conditions_eq, whole]
  constructor
  · exact wordCount_around (by decide) (by decide) _ _
  constructor
  · exact unconditionedJoins_around (by decide) (by decide) _ _
  · exact wordCount_around (by decide) (by decide) _ _

/-! ## Joins that are led -/

variable {front run : List Char}

/-- Whether a word stands between two texts as a whole: there is a boundary on both sides. -/
structure Whole (before word after : List Char) : Prop where
  starts : isBoundary before.getLast? word.head? = true
  ends : isBoundary word.getLast? after.head? = true

/-- Whether every word `join` in a text directly follows the word `cross` or `natural` and blanks. -/
def EachJoinLed (text : List Char) : Prop :=
  ∀ before word after, text = before ++ (word ++ after) → isOneOf ["join"] word = true →
    Whole before word after →
      ∃ front leader gap, before = front ++ (leader ++ gap) ∧
        isOneOf ["cross", "natural"] leader = true ∧ Whole front leader gap ∧
        gap ≠ [] ∧ ∀ c ∈ gap, isBlank c = true

/-- What precedes the last run inherits that every join is led. -/
theorem EachJoinLed.of_append (led : EachJoinLed (front ++ run)) (parted : Parted front run) :
    EachJoinLed front := by
  intro before word after split isJoin whole
  have isWord : IsRun true word := isRun_of_isOneOf (by decide) isJoin
  have longer : front ++ run = before ++ (word ++ (after ++ run)) := by
    rw [split]
    simp
  refine led before word (after ++ run) longer isJoin ⟨whole.starts, ?_⟩
  cases after with
  | nil =>
    rw [List.append_nil] at split
    have same : front.getLast? = word.getLast? := by
      rw [split, List.getLast?_append_of_ne_nil _ isWord.nonempty]
    apply isBoundary_of_stops isWord
    apply isWord.parted_iff.1
    rwa [Parted, ← same]
  | cons c others => exact whole.ends

/-- If every join is led, there are no more joins than those without a condition. -/
theorem EachJoinLed.le {text : List Char} (led : EachJoinLed text) :
    wordCount ["join"] (runs text) ≤ unconditionedJoins (runs text) := by
  induction text using runs_reverse_induction with
  | nil => exact Nat.le_refl _
  | append kind front run isRun parted ih =>
    have before := ih (led.of_append parted)
    rw [runs_append parted, isRun.runs_eq, wordCount, List.countP_append, ← wordCount,
      List.countP_singleton]
    cases isJoin : isOneOf ["join"] run with
    | false => exact before.trans (unconditionedJoins_mono _ _)
    | true =>
      have isWord : IsRun true run := isRun_of_isOneOf (by decide) isJoin
      have whole : Whole front run [] :=
        ⟨isBoundary_of_parted isWord parted, isBoundary_of_stops isWord (by simp)⟩
      rcases led front run [] (by simp) isJoin whole with
        ⟨start, leader, gap, rfl, isLeader, wholeLeader, some, blank⟩
      have isLead : IsRun true leader := isRun_of_isOneOf (by decide) isLeader
      have isGap : IsRun false gap := ⟨some, fun c member => isWordChar_of_isBlank (blank c member)⟩
      have split : runs (start ++ (leader ++ gap)) = runs start ++ [leader, gap] := by
        have starts := parted_of_isBoundary wholeLeader.starts
        have ends := parted_of_isBoundary wholeLeader.ends
        rw [runs_append (starts.append isLead.nonempty gap), isLead.runs_append ends, isGap.runs_eq]
      rw [split] at before ⊢
      rw [List.append_assoc]
      refine (Nat.add_le_add_right before _).trans ?_
      rw [List.cons_append, List.singleton_append, unconditionedJoins_last, isLeader, isJoin,
        List.all_eq_true.2 blank]
      exact Nat.le_refl _

/-- The only join between two tables is led. -/
theorem eachJoinLed_crossJoin : EachJoinLed "a cross join b".toList := by
  intro before word after split isJoin whole
  have four : word.length = 4 := by
    rcases isOneOf_iff.1 isJoin with ⟨join, listed, folds⟩
    rw [length_of_fold folds, List.mem_singleton.1 listed]
    rfl
  have part : word = ("a cross join b".toList.drop before.length).take 4 := by
    rw [split, List.drop_left, ← four, List.take_left]
  have place : before.length < 15 := by
    have length := congrArg List.length split
    rw [List.length_append] at length
    have all : "a cross join b".toList.length = 14 := by decide
    omega
  have only : ∀ n : Fin 15,
      isOneOf ["join"] (("a cross join b".toList.drop n).take 4) = true → n.val = 8 := by
    decide
  have eight : before.length = 8 := only ⟨before.length, place⟩ (by rwa [← part])
  have front : before = "a cross join b".toList.take before.length := by
    rw [split, List.take_left]
  rw [eight] at front
  exact ⟨"a ".toList, "cross".toList, [' '], front.trans (by decide), by decide,
    ⟨by decide, by decide⟩, by decide, List.forall_mem_singleton.2 (by decide)⟩

end Querent.Sql
