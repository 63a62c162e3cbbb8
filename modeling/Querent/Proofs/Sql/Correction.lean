import Querent.Proofs.Sql.Joins
import Querent.Proofs.Sql.WordScan
import Querent.Proofs.Text.Slots

/-!
# Tips by detectors

A correction goes by five detectors, of which each has its own tips.  Four of them read the error in small
letters and ask for fixed wording in it, so they see as much in a longer error, and neither the case of its
letters nor which of the two small sigmas stands for a capital one makes a difference.  The last one counts
the joins in the query.
-/

namespace Querent

namespace Text

/-! ## Fixed wording in a text -/

/-- A text of which a pattern is a part is at least as long as what it occurs in. -/
theorem occursIn_mono {pattern shorter longer : List Char} (inside : shorter <:+: longer)
    (occurs : occursIn pattern shorter = true) : occursIn pattern longer = true :=
  occursIn_iff.2 ((occursIn_iff.1 occurs).trans inside)

/-- Whether two texts are the same but for which of the two small sigmas they have. -/
def SameButSigma (text other : List Char) : Prop :=
  replaceChar 'ς' 'σ' text = replaceChar 'ς' 'σ' other

theorem SameButSigma.occursIn_eq {text other : List Char} (same : SameButSigma text other)
    {pattern : List Char} (noFinal : 'ς' ∉ pattern) (noMedial : 'σ' ∉ pattern) :
    occursIn pattern text = occursIn pattern other := by
  rw [Bool.eq_iff_iff, occursIn_iff, occursIn_iff, ← infix_replaceChar_iff noFinal noMedial, same,
    infix_replaceChar_iff noFinal noMedial]

end Text

namespace Sql

theorem SameLetters.lower_eq {text other : String} (same : SameLetters text other) :
    Text.lower text.toList = Text.lower other.toList := by
  rw [← Text.lower_map_toLower text.toList, same, Text.lower_map_toLower]

/-! ## Detectors -/

/-- What a correction goes by. -/
inductive Detector where
  | badSyntax
  | missingTable
  | missingColumn
  | ambiguousName
  | missingCondition
  deriving DecidableEq

namespace Detector

/-- The detectors in the order of their tips. -/
def inOrder : List Detector :=
  [badSyntax, missingTable, missingColumn, ambiguousName, missingCondition]

theorem mem_inOrder (detector : Detector) : detector ∈ inOrder := by
  cases detector <;> decide

/-- Whether a detector fires for a query and an error in small letters. -/
def fires (query : String) (error : List Char) : Detector → Bool
  | badSyntax => reportsBadSyntax error
  | missingTable => reportsMissingTable error
  | missingColumn => reportsMissingColumn error
  | ambiguousName => reportsAmbiguous error
  | missingCondition => lacksJoinCondition query

/-- The tips of a detector. -/
def tips : Detector → List String
  | badSyntax => ["Check for missing commas, parentheses, or quotes"]
  | missingTable =>
    ["Verify the table name exists in the schema", "Use the schema tool to see available tables"]
  | missingColumn =>
    ["Check if the column name is spelled correctly", "Use the schema tool to see available columns"]
  | ambiguousName => ["Use table aliases to disambiguate column names (e.g., t1.id, t2.id)"]
  | missingCondition => ["Add an ON clause to your JOIN statement"]

/-- The detectors that fire for a query and an error, in the order of their tips. -/
def firing (query error : String) : List Detector :=
  inOrder.filter (fires query (Text.lower error.toList))

theorem mem_firing_iff {query error : String} {detector : Detector} :
    detector ∈ firing query error ↔ detector.fires query (Text.lower error.toList) = true := by
  rw [firing, List.mem_filter, and_iff_right (mem_inOrder detector)]

variable {query : String} {shorter longer : List Char}

/-- A detector that fires for an error fires for each longer one. -/
theorem fires_mono {detector : Detector} (inside : shorter <:+: longer)
    (fires : detector.fires query shorter = true) : detector.fires query longer = true := by
  have mono (wording : String) (occurs : Text.occursIn wording.toList shorter = true) :
      Text.occursIn wording.toList longer = true := Text.occursIn_mono inside occurs
  cases detector with
  | badSyntax => exact mono _ fires
  | missingTable =>
    simp only [Detector.fires, reportsMissingTable, Bool.or_eq_true, Bool.and_eq_true] at fires ⊢
    exact fires.imp (mono _) (And.imp (Or.imp (mono _) (mono _)) (Or.imp (mono _) (mono _)))
  | missingColumn =>
    simp only [Detector.fires, reportsMissingColumn, Bool.or_eq_true, Bool.and_eq_true] at fires ⊢
    exact fires.imp (Or.imp (mono _) (mono _)) (And.imp (mono _) (mono _))
  | ambiguousName => exact mono _ fires
  | missingCondition => exact fires

theorem fires_of_sameButSigma (same : Text.SameButSigma shorter longer) (detector : Detector) :
    detector.fires query shorter = detector.fires query longer := by
  cases detector with
  | badSyntax => exact same.occursIn_eq (by decide) (by decide)
  | missingTable =>
    simp (disch := decide) only [fires, reportsMissingTable, same.occursIn_eq]
  | missingColumn =>
    simp (disch := decide) only [fires, reportsMissingColumn, same.occursIn_eq]
  | ambiguousName => exact same.occursIn_eq (by decide) (by decide)
  | missingCondition => rfl

end Detector

open Detector

/-! ## Tips -/

theorem flatMap_filter_eq {α β : Type} (p : α → Bool) (f : α → List β) (all : List α) :
    (all.filter p).flatMap f = all.flatMap fun a => if p a then f a else [] := by
  induction all with
  | nil => rfl
  | cons a all ih =>
    rw [List.filter_cons, List.flatMap_cons, ← ih]
    cases p a <;> rfl

/-- The tips are those of the detectors that fire, in their order. -/
theorem tips_eq (query error : String) :
    errorTips error ++ queryTips query = (firing query error).flatMap tips := by
  rw [firing, flatMap_filter_eq, inOrder]
  simp only [List.flatMap_cons, List.flatMap_nil, List.append_nil, ← List.append_assoc]
  rfl

theorem queryTips_empty : queryTips "" = [] := rfl

/-- The tips for an error are those for a query that has nothing amiss. -/
theorem errorTips_eq (error : String) : errorTips error = (firing "" error).flatMap tips := by
  rw [← tips_eq, queryTips_empty, List.append_nil]

theorem mem_errorTips_iff {error tip : String} :
    tip ∈ errorTips error ↔
      ∃ detector : Detector,
        detector.fires "" (Text.lower error.toList) = true ∧ tip ∈ detector.tips := by
  rw [errorTips_eq, List.mem_flatMap]
  simp only [mem_firing_iff]

/-- No tip for an error is lost when the error gets longer. -/
theorem errorTips_subset (before error after : String) :
    errorTips error ⊆ errorTips (before ++ error ++ after) := by
  intro tip given
  rcases mem_errorTips_iff.1 given with ⟨detector, fires, listed⟩
  refine mem_errorTips_iff.2 ⟨detector, fires_mono ?_ fires, listed⟩
  rw [String.toList_append, String.toList_append, Text.lower_append, Text.lower_append]
  exact ⟨_, _, rfl⟩

/-- The tip for a query with more joins than conditions. -/
def joinTip : String :=
  "Add an ON clause to your JOIN statement"

theorem joinTip_mem_iff {detector : Detector} :
    joinTip ∈ detector.tips ↔ detector = missingCondition := by
  cases detector <;> decide

/-- The tip for joins depends on the query only. -/
theorem joinTip_mem_correctionTips_iff {query error : String} :
    joinTip ∈ correctionTips query error ↔ lacksJoinCondition query = true := by
  have among : joinTip ∈ (firing query error).flatMap tips ↔ lacksJoinCondition query = true := by
    rw [List.mem_flatMap]
    simp only [joinTip_mem_iff, mem_firing_iff, exists_eq_right, fires]
  have notGeneral : joinTip ∉ generalTips := by decide
  simp only [correctionTips, tips_eq, List.isEmpty_iff]
  split
  next none =>
    rw [none] at among
    rw [← among]
    exact iff_of_false notGeneral List.not_mem_nil
  next => exact among

/-! ## Advice -/

/-- Tips as a text. -/
def advice (tips : List String) : String :=
  ". ".intercalate tips ++ "."

/-- Advice starts as its first tip does. -/
theorem head?_advice {tip : String} (rest : List String) (nonempty : tip.toList ≠ []) :
    (advice (tip :: rest)).toList.head? = tip.toList.head? := by
  rw [advice, String.toList_append]
  cases rest with
  | nil => rw [String.intercalate_singleton, List.head?_append_of_ne_nil _ nonempty]
  | cons next rest =>
    rw [String.intercalate_cons_cons, String.toList_append, String.toList_append, List.append_assoc,
      List.append_assoc, List.head?_append_of_ne_nil _ nonempty]

theorem exists_first_tip (detector : Detector) :
    ∃ tip others, detector.tips = tip :: others ∧ tip.toList ≠ [] ∧
      tip.toList.head? ≠ some 'R' := by
  cases detector <;> exact ⟨_, _, rfl, by decide, by decide⟩

/-- General advice reads differently from any other. -/
theorem advice_ne_general {detectors : List Detector} (some : detectors ≠ []) :
    advice (detectors.flatMap tips) ≠ advice generalTips := by
  intro same
  rcases List.exists_cons_of_ne_nil some with ⟨detector, others, rfl⟩
  rcases exists_first_tip detector with ⟨tip, further, first, nonempty, notR⟩
  have general : (advice generalTips).toList.head? = "Review the SQL syntax".toList.head? :=
    head?_advice _ (by decide)
  have starts := congrArg (·.toList.head?) same
  simp only [List.flatMap_cons, first, List.cons_append, head?_advice _ nonempty, general] at starts
  rw [starts] at notR
  exact notR (by decide)

theorem suggestCorrection_eq (query error : String) :
    suggestCorrection query error =
      advice (if firing query error = [] then generalTips else (firing query error).flatMap tips) := by
  have none : (firing query error).flatMap tips = [] ↔ firing query error = [] := by
    constructor
    · intro empty
      by_contra some
      rcases List.exists_cons_of_ne_nil some with ⟨detector, others, split⟩
      rcases exists_first_tip detector with ⟨tip, further, first, -, -⟩
      rw [split, List.flatMap_cons, first] at empty
      cases empty
    · intro empty
      rw [empty, List.flatMap_nil]
  rw [suggestCorrection, correctionTips, tips_eq, advice]
  simp only [List.isEmpty_iff, none]

theorem firing_eq_nil_iff {query error : String} :
    firing query error = [] ↔
      ∀ detector : Detector, detector.fires query (Text.lower error.toList) = false := by
  rw [List.eq_nil_iff_forall_not_mem]
  simp only [mem_firing_iff, Bool.not_eq_true]

/--
Advice is the general tips exactly if no detector fires, and else the tips of those that do in their order.
The tips for an error stay the same if the case of its ASCII letters changes, whichever small sigma stands
for a capital one, and none is lost when the error gets longer.  The tip for joins is given exactly if a
query has the word for a join more often than joins that need no condition and words that state one; there
are never more joins without a condition than joins, none is left if each join is led by a word that makes
a condition needless, and the counts of two queries add up when these are sent as one.
-/
theorem correction_by_detectors :
    (∀ query error : String,
      (suggestCorrection query error = advice generalTips ↔
        ∀ detector : Detector, detector.fires query (Text.lower error.toList) = false) ∧
      ∀ detector : Detector, detector.fires query (Text.lower error.toList) = true →
        suggestCorrection query error = advice ((firing query error).flatMap tips)) ∧
    (∀ error other, SameLetters error other → errorTips error = errorTips other) ∧
    (∀ (query error : String) (lowered : List Char),
      Text.SameButSigma lowered (Text.lower error.toList) →
        ∀ detector : Detector, detector.fires query lowered =
          detector.fires query (Text.lower error.toList)) ∧
    (∀ before error after, errorTips error ⊆ errorTips (before ++ error ++ after)) ∧
    (∀ query error : String, joinTip ∈ correctionTips query error ↔
      unconditioned query + conditions query < joins query) ∧
    (∀ query, unconditioned query ≤ joins query) ∧
    (∀ query error : String, EachJoinLed query.toList → joinTip ∉ correctionTips query error) ∧
    (∀ first second : String,
      joins (first ++ ";" ++ second) = joins first + joins second ∧
      unconditioned (first ++ ";" ++ second) = unconditioned first + unconditioned second ∧
      conditions (first ++ ";" ++ second) = conditions first + conditions second) ∧
    (∀ first second error error' error'' : String, joinTip ∉ correctionTips first error →
      joinTip ∉ correctionTips second error' →
        joinTip ∉ correctionTips (first ++ ";" ++ second) error'') := by
  have tipped (query error : String) : joinTip ∈ correctionTips query error ↔
      unconditioned query + conditions query < joins query :=
    joinTip_mem_correctionTips_iff.trans lacksJoinCondition_iff
  refine ⟨?general, ?cased, ?sigma, ?longer, tipped, unconditioned_le_joins, ?led, counts_batched,
    ?batch⟩
  case general =>
    intro query error
    rw [suggestCorrection_eq, ← firing_eq_nil_iff]
    constructor
    · by_cases none : firing query error = []
      · rw [if_pos none]
        exact iff_of_true rfl none
      · rw [if_neg none]
        exact iff_of_false (advice_ne_general none) none
    · intro detector fires
      rw [if_neg (List.ne_nil_of_mem (mem_firing_iff.2 fires))]
  case cased =>
    intro error other same
    rw [errorTips, errorTips, same.lower_eq]
  case sigma =>
    intro query error lowered same detector
    exact fires_of_sameButSigma same detector
  case longer =>
    intro before error after
    exact errorTips_subset before error after
  case led =>
    intro query error led
    have fewer := led.le
    rw [tipped, joins_eq, unconditioned_eq]
    omega
  case batch =>
    intro first second error error' error'' noTip noTip'
    rcases counts_batched first second with ⟨joined, needless, stated⟩
    rw [tipped] at noTip noTip' ⊢
    omega

/-- A reported error in two spellings, and two queries with nothing amiss in their joins. -/
theorem correction_by_detectors_crossJoin :
    suggestCorrection "SELECT" "near FROM: syntax error" =
      advice ((firing "SELECT" "near FROM: syntax error").flatMap tips) ∧
    errorTips "No Such Table: t" = errorTips "no such table: T" ∧
    ambiguousName.fires "" "ambiguous name: ς".toList =
      ambiguousName.fires "" (Text.lower "AMBIGUOUS NAME: Σ".toList) ∧
    joinTip ∉ correctionTips "a cross join b" "failed" ∧
    joinTip ∉ correctionTips ("a cross join b" ++ ";" ++ "a cross join b") "failed" := by
  have led (error : String) : joinTip ∉ correctionTips "a cross join b" error :=
    correction_by_detectors.2.2.2.2.2.2.1 _ error eachJoinLed_crossJoin
  refine ⟨?_, ?_, ?_, led _, ?_⟩
  · exact (correction_by_detectors.1 _ _).2 badSyntax (by decide)
  · exact correction_by_detectors.2.1 _ _ (by unfold SameLetters; decide)
  · exact correction_by_detectors.2.2.1 _ _ _ (by unfold Text.SameButSigma; decide) ambiguousName
  · exact correction_by_detectors.2.2.2.2.2.2.2.2 _ _ "" "" _ (led _) (led _)

end Sql

end Querent
