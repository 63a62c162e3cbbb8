import Mathlib.Algebra.GroupWithZero.Nat
import Mathlib.Data.Finset.Card
import Mathlib.Data.String.Basic
import Querent.History.Usage
import Querent.Proofs.Calendar.Time

/-!
# What the figures say

The figures about entries are exact: every number is a count or a sum over the entries, the errors
that are listed are the most frequent ones and the hours that are listed are the latest ones.  None of
this depends on the order of the entries, nor on the order in which the counted errors are met before
they are ranked.
-/

namespace Querent.Usage

/-! ## Counted texts -/

/-- Whether counts list every text among the given ones, once and with the number of its occurrences. -/
structure Tallies (counts : List (String × Nat)) (texts : List String) : Prop where
  distinct : (counts.map Prod.fst).Nodup
  mem_iff : ∀ text n, (text, n) ∈ counts ↔ text ∈ texts ∧ n = texts.count text

theorem map_fst_count (text : String) (counts : List (String × Nat)) :
    (count text counts).map Prod.fst =
      if text ∈ counts.map Prod.fst then counts.map Prod.fst
      else counts.map Prod.fst ++ [text] := by
  induction counts with
  | nil => rfl
  | cons entry rest ih =>
    obtain ⟨other, n⟩ := entry
    by_cases same : other = text
    · simp [count, same]
    · have different : text ≠ other := fun equal => same equal.symm
      simp only [count, beq_eq_false_iff_ne.2 same, Bool.false_eq_true, if_false, List.map_cons, ih,
        List.mem_cons, different, false_or]
      split <;> rfl

theorem mem_count {text : String} {counts : List (String × Nat)}
    (distinct : (counts.map Prod.fst).Nodup) (other : String) (n : Nat) :
    (other, n) ∈ count text counts ↔
      if other = text then
        (text ∉ counts.map Prod.fst ∧ n = 1) ∨ ∃ m, (text, m) ∈ counts ∧ n = m + 1
      else (other, n) ∈ counts := by
  induction counts with
  | nil =>
    by_cases same : other = text <;> simp [count, same]
  | cons entry rest ih =>
    obtain ⟨first, m⟩ := entry
    have ih := ih (List.nodup_cons.1 distinct).2
    have fresh : first ∉ rest.map Prod.fst := (List.nodup_cons.1 distinct).1
    have elsewhere : ∀ k, (first, k) ∉ rest := fun k member =>
      fresh (List.mem_map_of_mem (f := Prod.fst) member)
    by_cases found : first = text
    · subst found
      by_cases same : other = first
      · subst same
        simp [count, elsewhere]
      · simp [count, same]
    · have notFound : text ≠ first := fun equal => found equal.symm
      simp only [count, beq_eq_false_iff_ne.2 found, Bool.false_eq_true, if_false, List.mem_cons, ih]
      by_cases same : other = text
      · subst same
        simp [notFound]
      · simp [same]

theorem tallies_nil : Tallies [] [] :=
  ⟨List.nodup_nil, by simp⟩

/-- Counting one more text keeps the counts right. -/
theorem Tallies.count {counts : List (String × Nat)} {texts : List String}
    (tallies : Tallies counts texts) (text : String) :
    Tallies (count text counts) (texts ++ [text]) where
  distinct := by
    rw [map_fst_count]
    split
    next => exact tallies.distinct
    next fresh =>
      rw [← List.concat_eq_append, List.nodup_concat]
      exact ⟨fresh, tallies.distinct⟩
  mem_iff := by
    intro other n
    have known : text ∈ counts.map Prod.fst ↔ text ∈ texts := by
      simp [tallies.mem_iff]
    rw [mem_count tallies.distinct, List.count_append]
    by_cases same : other = text
    · subst same
      simp only [if_true, known, tallies.mem_iff, List.mem_append, List.mem_singleton, or_true,
        true_and, List.count_singleton_self]
      by_cases met : other ∈ texts
      · simp [met]
      · simp [met, List.count_eq_zero_of_not_mem met]
    · have different : ¬ text = other := fun equal => same equal.symm
      simp [same, different, tallies.mem_iff]

theorem tallies_tally (texts : List String) : Tallies (tally texts) texts := by
  have general (done rest : List String) (counts : List (String × Nat))
      (tallies : Tallies counts done) :
      Tallies (rest.foldl (fun counts text => count text counts) counts) (done ++ rest) := by
    induction rest generalizing done counts with
    | nil => simpa using tallies
    | cons text rest ih => simpa using ih (done ++ [text]) _ (tallies.count text)
  exact general [] texts [] tallies_nil

namespace Tallies

variable {counts other : List (String × Nat)} {texts moreTexts : List String}

theorem nodup (tallies : Tallies counts texts) : counts.Nodup :=
  .of_map Prod.fst tallies.distinct

/-- Counts of the same texts, in whatever order, are the same but for their order. -/
theorem perm (tallies : Tallies counts texts) (others : Tallies other moreTexts)
    (same : texts.Perm moreTexts) : counts.Perm other := by
  rw [List.perm_ext_iff_of_nodup tallies.nodup others.nodup]
  rintro ⟨text, n⟩
  rw [tallies.mem_iff, others.mem_iff, same.mem_iff, same.count_eq]

theorem of_perm (tallies : Tallies counts texts) (same : other.Perm counts) :
    Tallies other texts where
  distinct := (same.map Prod.fst).nodup_iff.2 tallies.distinct
  mem_iff := fun text n => by rw [same.mem_iff, tallies.mem_iff]

theorem map_fst_toFinset (tallies : Tallies counts texts) :
    (counts.map Prod.fst).toFinset = texts.toFinset := by
  ext text
  simp [tallies.mem_iff]

theorem length (tallies : Tallies counts texts) : counts.length = texts.toFinset.card := by
  rw [← tallies.map_fst_toFinset, List.toFinset_card_of_nodup tallies.distinct, List.length_map]

theorem eq_of_fst_eq (tallies : Tallies counts texts) {a b : String × Nat} (first : a ∈ counts)
    (second : b ∈ counts) (same : a.1 = b.1) : a = b := by
  have left := ((tallies.mem_iff a.1 a.2).1 first).2
  have right := ((tallies.mem_iff b.1 b.2).1 second).2
  exact Prod.ext same (by rw [left, right, same])

end Tallies

/-! ## Ranking -/

/-- Whether a counted text ranks before another: the more frequent one does, and of equally frequent
ones the lesser text. -/
def RanksBefore (a b : String × Nat) : Prop :=
  b.2 < a.2 ∨ b.2 = a.2 ∧ a.1 < b.1

theorem errorOrder_iff (a b : String × Nat) :
    errorOrder a b = true ↔ b.2 < a.2 ∨ b.2 = a.2 ∧ a.1 ≤ b.1 := by
  simp [errorOrder]

theorem ranksBefore_of_errorOrder {a b : String × Nat} (ordered : errorOrder a b = true)
    (different : a.1 ≠ b.1) : RanksBefore a b :=
  ((errorOrder_iff a b).1 ordered).imp_right fun ⟨equal, notAfter⟩ =>
    ⟨equal, lt_of_le_of_ne notAfter different⟩

/-- Counts in the order of their ranks. -/
def ranked (counts : List (String × Nat)) : List (String × Nat) :=
  counts.mergeSort errorOrder

theorem pairwise_ranked (counts : List (String × Nat)) :
    (ranked counts).Pairwise fun a b => errorOrder a b = true := by
  refine List.pairwise_mergeSort ?_ ?_ counts
  · intro a b c first second
    rw [errorOrder_iff] at *
    rcases first with more | ⟨equal, less⟩ <;> rcases second with more' | ⟨equal', less'⟩
    · exact .inl (by omega)
    · exact .inl (by omega)
    · exact .inl (by omega)
    · exact .inr ⟨by omega, less.trans less'⟩
  · intro a b
    rw [Bool.or_eq_true, errorOrder_iff, errorOrder_iff]
    rcases lt_trichotomy a.2 b.2 with less | equal | more
    · exact .inr (.inl less)
    · rcases le_total a.1 b.1 with first | second
      · exact .inl (.inr ⟨equal.symm, first⟩)
      · exact .inr (.inr ⟨equal, second⟩)
    · exact .inl (.inl more)

/-- In whatever order counts are met, they are ranked in the same way. -/
theorem ranked_eq_of_perm {counts other : List (String × Nat)} (same : counts.Perm other) :
    ranked counts = ranked other := by
  refine List.Perm.eq_of_pairwise ?_ (pairwise_ranked counts) (pairwise_ranked other) ?_
  · intro a b _ _ first second
    rw [errorOrder_iff] at first second
    have equal : a.2 = b.2 := by omega
    simp only [equal, lt_irrefl, false_or, true_and] at first second
    exact Prod.ext (le_antisymm first second) equal
  · exact (List.mergeSort_perm ..).trans (same.trans (List.mergeSort_perm ..).symm)

theorem Tallies.ranked {counts : List (String × Nat)} {texts : List String}
    (tallies : Tallies counts texts) : Tallies (ranked counts) texts :=
  tallies.of_perm (List.mergeSort_perm ..)

/-- Counts that tally texts are ranked strictly. -/
theorem Tallies.pairwise_ranked {counts : List (String × Nat)} {texts : List String}
    (tallies : Tallies counts texts) : (Usage.ranked counts).Pairwise RanksBefore := by
  have distinct : (Usage.ranked counts).Pairwise fun a b => a.1 ≠ b.1 :=
    List.pairwise_map.1 tallies.ranked.distinct
  exact ((Usage.pairwise_ranked counts).and distinct).imp fun ⟨ordered, different⟩ =>
    ranksBefore_of_errorOrder ordered different

/-! ## Errors -/

/-- The errors of the entries that did not succeed, in the order of the entries. -/
def failures (entries : List HistoryEntry) : List String :=
  (entries.filter fun entry => !succeeded entry).map errorOf

theorem errorCounts_eq (entries : List HistoryEntry) :
    errorCounts entries = (ranked (tally (failures entries))).take mostErrors := rfl

/-- Whether listed errors are the most frequent ones among errors, with their numbers. -/
structure ListsErrors (listed : List (String × Nat)) (errors : List String) : Prop where
  distinct : (listed.map Prod.fst).Nodup
  counted : ∀ entry ∈ listed, entry.1 ∈ errors ∧ entry.2 = errors.count entry.1
  ordered : listed.Pairwise RanksBefore
  length_eq : listed.length = min 10 errors.toFinset.card
  omitted : ∀ error ∈ errors, error ∉ listed.map Prod.fst →
    ∀ entry ∈ listed, RanksBefore entry (error, errors.count error)

theorem listsErrors_take_ranked {counts : List (String × Nat)} {errors : List String}
    (tallies : Tallies counts errors) : ListsErrors ((ranked counts).take mostErrors) errors := by
  have whole := tallies.ranked
  have kept : ((ranked counts).take mostErrors).Sublist (ranked counts) := List.take_sublist ..
  have split : ((ranked counts).take mostErrors ++ (ranked counts).drop mostErrors).Pairwise
      RanksBefore := by
    rw [List.take_append_drop]
    exact tallies.pairwise_ranked
  refine ⟨whole.distinct.sublist (kept.map Prod.fst), ?_, split.sublist (List.sublist_append_left ..), ?_,
    ?_⟩
  · rintro ⟨error, n⟩ member
    exact (whole.mem_iff error n).1 (kept.subset member)
  · rw [List.length_take, whole.length]
    rfl
  · intro error met missing entry member
    have counted : (error, errors.count error) ∈ ranked counts :=
      (whole.mem_iff _ _).2 ⟨met, rfl⟩
    rw [← List.take_append_drop mostErrors (ranked counts), List.mem_append] at counted
    rcases counted with shown | dropped
    · exact absurd (List.mem_map_of_mem (f := Prod.fst) shown) missing
    · exact (List.pairwise_append.1 split).2.2 _ member _ dropped

/-! ## Hours -/

/-- Counts in the order of their texts. -/
def inOrder (counts : List (String × Nat)) : List (String × Nat) :=
  counts.mergeSort fun a b => a.1 ≤ b.1

theorem pairwise_inOrder (counts : List (String × Nat)) :
    (inOrder counts).Pairwise fun a b => a.1 ≤ b.1 := by
  have sorted : (inOrder counts).Pairwise fun a b => decide (a.1 ≤ b.1) = true := by
    refine List.pairwise_mergeSort ?_ ?_ counts
    · intro a b c first second
      rw [decide_eq_true_eq] at *
      exact le_trans first second
    · intro a b
      rw [Bool.or_eq_true, decide_eq_true_eq, decide_eq_true_eq]
      exact le_total a.1 b.1
  exact sorted.imp of_decide_eq_true

theorem Tallies.inOrder {counts : List (String × Nat)} {texts : List String}
    (tallies : Tallies counts texts) : Tallies (inOrder counts) texts :=
  tallies.of_perm (List.mergeSort_perm ..)

theorem Tallies.pairwise_inOrder {counts : List (String × Nat)} {texts : List String}
    (tallies : Tallies counts texts) : (Usage.inOrder counts).Pairwise fun a b => a.1 < b.1 := by
  have distinct : (Usage.inOrder counts).Pairwise fun a b => a.1 ≠ b.1 :=
    List.pairwise_map.1 tallies.inOrder.distinct
  exact ((Usage.pairwise_inOrder counts).and distinct).imp fun ⟨notAfter, different⟩ =>
    lt_of_le_of_ne notAfter different

/-- In whatever order the counts of some texts are met, they are brought into the same order. -/
theorem inOrder_eq_of_perm {counts other : List (String × Nat)} {texts : List String}
    (tallies : Tallies counts texts) (same : counts.Perm other) : inOrder counts = inOrder other := by
  have first : (inOrder counts).Perm counts := List.mergeSort_perm ..
  have second : (inOrder other).Perm other := List.mergeSort_perm ..
  refine List.Perm.eq_of_pairwise ?_ (pairwise_inOrder counts) (pairwise_inOrder other)
    (first.trans (same.trans second.symm))
  intro a b inFirst inSecond notAfter notBefore
  have member : b ∈ counts := same.mem_iff.2 (second.mem_iff.1 inSecond)
  exact tallies.eq_of_fst_eq (first.mem_iff.1 inFirst) member (le_antisymm notAfter notBefore)

theorem hourCounts_eq (entries : List HistoryEntry) :
    hourCounts entries =
      (inOrder (tally (entries.map (·.createdAt.hourText)))).drop
        ((inOrder (tally (entries.map (·.createdAt.hourText)))).length - mostHours) := rfl

open Calendar (Moment)

/-- The number of entries in the hour of a moment. -/
def countInHour (entries : List HistoryEntry) (moment : Moment) : Nat :=
  entries.countP fun entry => entry.createdAt.hour = moment.hour

/-- Whether listed hours are the latest ones with entries, with the numbers of their entries; of each
hour a moment is given at which an entry was made. -/
structure ListsHours (listed : List (String × Nat)) (moments : List Moment)
    (entries : List HistoryEntry) : Prop where
  listed_eq : listed = moments.map fun moment => (moment.hourText, countInHour entries moment)
  entered : ∀ moment ∈ moments, ∃ entry ∈ entries, entry.createdAt = moment
  ascending : moments.Pairwise fun a b => a.hour < b.hour
  length_eq : listed.length = min 24 (entries.map (·.createdAt.hour)).toFinset.card
  omitted : ∀ entry ∈ entries, (∀ moment ∈ moments, entry.createdAt.hour ≠ moment.hour) →
    ∀ moment ∈ moments, entry.createdAt.hour < moment.hour

/-- Two ways to name the members of a list that agree on which have the same name use equally many
names. -/
theorem card_names_eq {α β γ : Type} [DecidableEq β] [DecidableEq γ] {f : α → β} {g : α → γ}
    {items : List α} (agree : ∀ a ∈ items, ∀ b ∈ items, f a = f b ↔ g a = g b) :
    (items.map f).toFinset.card = (items.map g).toFinset.card := by
  induction items with
  | nil => rfl
  | cons first rest ih =>
    have later := ih fun a inRest b alsoInRest =>
      agree a (List.mem_cons_of_mem _ inRest) b (List.mem_cons_of_mem _ alsoInRest)
    have met : f first ∈ (rest.map f).toFinset ↔ g first ∈ (rest.map g).toFinset := by
      simp only [List.mem_toFinset, List.mem_map]
      refine exists_congr fun other => and_congr_right fun inRest => ?_
      exact agree other (List.mem_cons_of_mem _ inRest) first List.mem_cons_self
    simp only [List.map_cons, List.toFinset_cons, Finset.card_insert_eq_ite, met, later]

/-- A list of values of a function is what the function makes of a list. -/
theorem exists_map_eq {α β : Type} {f : α → β} {p : α → Prop} {values : List β}
    (reached : ∀ value ∈ values, ∃ a, p a ∧ f a = value) :
    ∃ items : List α, (∀ a ∈ items, p a) ∧ values = items.map f := by
  induction values with
  | nil => exact ⟨[], by simp, rfl⟩
  | cons value rest ih =>
    obtain ⟨a, holds, rfl⟩ := reached value List.mem_cons_self
    obtain ⟨items, hold, rfl⟩ := ih fun other inRest => reached other (List.mem_cons_of_mem _ inRest)
    exact ⟨a :: items, by simpa using ⟨holds, hold⟩, rfl⟩

section Hours

variable {entries : List HistoryEntry}
    (plain : ∀ entry ∈ entries, entry.createdAt.HasPlainYear)

include plain

theorem count_hourText {entry : HistoryEntry} (member : entry ∈ entries) :
    (entries.map (·.createdAt.hourText)).count entry.createdAt.hourText =
      countInHour entries entry.createdAt := by
  rw [List.count, List.countP_map, countInHour]
  refine List.countP_congr fun other otherMember => ?_
  simpa using Moment.hourText_inj (plain other otherMember) (plain entry member)

/-- All hours with entries, with a moment at which an entry was made in each of them. -/
theorem exists_moments_of_inOrder :
    ∃ moments : List Moment,
      inOrder (tally (entries.map (·.createdAt.hourText))) =
        moments.map (fun moment => (moment.hourText, countInHour entries moment)) ∧
      (∀ moment ∈ moments, ∃ entry ∈ entries, entry.createdAt = moment) ∧
      moments.Pairwise (fun a b => a.hour < b.hour) ∧
      ∀ entry ∈ entries, ∃ moment ∈ moments, moment.hour = entry.createdAt.hour := by
  have tallies := tallies_tally (entries.map (·.createdAt.hourText))
  have sorted := tallies.pairwise_inOrder
  have whole := tallies.inOrder
  obtain ⟨moments, entered, listed⟩ := exists_map_eq
    (f := fun moment : Moment => (moment.hourText, countInHour entries moment))
    (p := fun moment => ∃ entry ∈ entries, entry.createdAt = moment)
    fun value (member : value ∈ inOrder (tally (entries.map (·.createdAt.hourText)))) => by
      obtain ⟨text, n⟩ := value
      obtain ⟨met, counted⟩ := (whole.mem_iff text n).1 member
      obtain ⟨entry, inEntries, rfl⟩ := List.mem_map.1 met
      exact ⟨_, ⟨entry, inEntries, rfl⟩, by rw [counted, count_hourText plain inEntries]⟩
  refine ⟨moments, listed, entered, ?_, ?_⟩
  · rw [listed, List.pairwise_map] at sorted
    refine sorted.imp_of_mem fun {a b} aMember bMember less => ?_
    obtain ⟨first, inEntries, rfl⟩ := entered a aMember
    obtain ⟨second, alsoInEntries, rfl⟩ := entered b bMember
    exact (Moment.hourText_lt_iff (plain first inEntries) (plain second alsoInEntries)).1 less
  · intro entry inEntries
    have counted := (whole.mem_iff entry.createdAt.hourText _).2
      ⟨List.mem_map_of_mem (f := fun entry => entry.createdAt.hourText) inEntries, rfl⟩
    rw [listed, List.mem_map] at counted
    obtain ⟨moment, member, same⟩ := counted
    obtain ⟨other, otherInEntries, rfl⟩ := entered moment member
    exact ⟨_, member,
      (Moment.hourText_inj (plain other otherInEntries) (plain entry inEntries)).1
        (congrArg Prod.fst same)⟩

theorem exists_listsHours : ∃ moments, ListsHours (hourCounts entries) moments entries := by
  obtain ⟨moments, listed, entered, ascending, complete⟩ := exists_moments_of_inOrder plain
  have many : (inOrder (tally (entries.map (·.createdAt.hourText)))).length =
      (entries.map (·.createdAt.hour)).toFinset.card := by
    rw [inOrder, List.length_mergeSort, (tallies_tally _).length]
    exact card_names_eq fun first inEntries second alsoInEntries =>
      Moment.hourText_inj (plain first inEntries) (plain second alsoInEntries)
  generalize skipped : (inOrder (tally (entries.map (·.createdAt.hourText)))).length - mostHours
    = skip
  have split : (moments.take skip ++ moments.drop skip).Pairwise fun a b => a.hour < b.hour := by
    rwa [List.take_append_drop]
  refine ⟨moments.drop skip, ?_, ?_, ?_, ?_, ?_⟩
  · rw [hourCounts_eq, skipped, listed, List.map_drop]
  · exact fun moment member => entered moment (List.mem_of_mem_drop member)
  · exact ascending.sublist (List.drop_sublist ..)
  · rw [hourCounts_eq, List.length_drop, ← many, mostHours]
    omega
  · intro entry inEntries missing moment member
    obtain ⟨latest, known, same⟩ := complete entry inEntries
    rw [← List.take_append_drop skip moments, List.mem_append] at known
    rcases known with dropped | shown
    · rw [← same]
      exact (List.pairwise_append.1 split).2.2 _ dropped _ member
    · exact absurd same.symm (missing latest shown)

end Hours

/-! ## All figures -/

/-- Sums below 2 ^ 64 are exact. -/
theorem wordSum_of_lt {values : List Nat} (fits : values.sum < Nat.pow 2 64) :
    wordSum values = values.sum :=
  Nat.mod_eq_of_lt fits

theorem wordSum_of_perm {first second : List Nat} (same : first.Perm second) :
    wordSum first = wordSum second :=
  congrArg (· % Nat.pow 2 64) same.sum_nat

/-- Whether figures are the exact figures about some entries. -/
structure Summarises (usage : Usage) (entries : List HistoryEntry) : Prop where
  total_eq : usage.total = entries.length
  successful_eq : usage.successful = entries.countP succeeded
  rowsReturned_eq :
    usage.rowsReturned = ((entries.filter succeeded).map (·.resultCount)).sum
  errorRate_eq : usage.errorRate = rate entries.length (entries.countP succeeded)
  meanTime_eq : usage.meanTime =
    mean ((entries.filter succeeded).map (·.milliseconds)).sum (entries.countP succeeded)
  errors : ListsErrors usage.errors (failures entries)
  hours : ∃ moments, ListsHours usage.hours moments entries

/-- Figures do not depend on the order of the entries. -/
theorem ofEntries_of_perm {entries other : List HistoryEntry} (same : entries.Perm other) :
    ofEntries entries = ofEntries other := by
  have successes := same.filter succeeded
  have errors : errorCounts entries = errorCounts other := by
    have failed : (failures entries).Perm (failures other) :=
      (same.filter fun entry => !succeeded entry).map errorOf
    rw [errorCounts_eq, errorCounts_eq,
      ranked_eq_of_perm ((tallies_tally _).perm (tallies_tally _) failed)]
  have hours : hourCounts entries = hourCounts other := by
    have tallied := (tallies_tally _).perm (tallies_tally _)
      (same.map fun entry => entry.createdAt.hourText)
    rw [hourCounts_eq, hourCounts_eq, inOrder_eq_of_perm (tallies_tally _) tallied]
  simp only [ofEntries, same.length_eq, successes.length_eq, errors, hours,
    wordSum_of_perm (successes.map (·.milliseconds)), wordSum_of_perm (successes.map (·.resultCount))]

/--
The figures about entries are exact, if the entries were made in years of four digits and their sums
fit into 64 bits.  They depend neither on the order of the entries nor on the order in which the
counted errors are met before they are ranked.
-/
theorem ofEntries_summarises (entries : List HistoryEntry)
    (plain : ∀ entry ∈ entries, entry.createdAt.HasPlainYear)
    (rows : ((entries.filter succeeded).map (·.resultCount)).sum < Nat.pow 2 64)
    (times : ((entries.filter succeeded).map (·.milliseconds)).sum < Nat.pow 2 64) :
    (ofEntries entries).Summarises entries ∧
      (∀ other, other.Perm entries → ofEntries other = ofEntries entries) ∧
      ∀ counts : List (String × Nat), counts.Perm (tally (failures entries)) →
        (counts.mergeSort errorOrder).take mostErrors = (ofEntries entries).errors := by
  refine ⟨?_, fun other same => ofEntries_of_perm same, ?_⟩
  · exact {
      total_eq := rfl
      successful_eq := List.countP_eq_length_filter.symm
      rowsReturned_eq := wordSum_of_lt rows
      errorRate_eq := by rw [List.countP_eq_length_filter]; rfl
      meanTime_eq := by rw [List.countP_eq_length_filter, ← wordSum_of_lt times]; rfl
      errors := listsErrors_take_ranked (tallies_tally _)
      hours := exists_listsHours plain }
  · intro counts met
    exact congrArg (List.take mostErrors) (ranked_eq_of_perm met)

/-- A minute of the first day of May 2024. -/
def mayDay (minute : Nat) (inDay : minute < Calendar.minutesPerDay) : Moment :=
  (Moment.epoch.onDay ⟨2024, 5, 1, by decide⟩).atMinute minute inDay

/-- Entries of one morning: an answer, two attempts that failed alike and one that was rejected without
a word. -/
def morning : List HistoryEntry :=
  [.success "a" "SELECT 1" 3 10 (mayDay 555 (by decide)),
    .failure "b" "SELECT x" .error "no column x" 7 (mayDay 605 (by decide)),
    ⟨"c", "DROP t", 0, 1, .rejected, none, mayDay 610 (by decide)⟩,
    .failure "d" "SELECT x" .error "no column x" 4 (mayDay 660 (by decide))]

theorem ofEntries_summarises_morning :
    (∀ entry ∈ morning, entry.createdAt.HasPlainYear) ∧
      ((morning.filter succeeded).map (·.resultCount)).sum < Nat.pow 2 64 ∧
      ((morning.filter succeeded).map (·.milliseconds)).sum < Nat.pow 2 64 ∧
      (ofEntries morning).Summarises morning ∧ ofEntries morning.reverse = ofEntries morning ∧
      ((tally (failures morning)).reverse.mergeSort errorOrder).take mostErrors =
        (ofEntries morning).errors := by
  have plain : ∀ entry ∈ morning, entry.createdAt.HasPlainYear := by decide
  have rows : ((morning.filter succeeded).map (·.resultCount)).sum < Nat.pow 2 64 := by decide
  have times : ((morning.filter succeeded).map (·.milliseconds)).sum < Nat.pow 2 64 := by decide
  obtain ⟨exactly, ordered, met⟩ := ofEntries_summarises morning plain rows times
  exact ⟨plain, rows, times, exactly, ordered _ (List.reverse_perm _), met _ (List.reverse_perm _)⟩

end Querent.Usage
