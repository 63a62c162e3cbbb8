import Mathlib.Data.List.SplitBy
import Querent.Proofs.Text.Blank
import Querent.Text.Case
import Querent.Text.Fold
import Querent.Text.Word

/-!
# Runs of word characters

A text is cut into runs from the left: each run is as long as possible, and a run of word characters is
followed by one of others.  Two texts that are put together keep their runs if no run goes on from the
first into the second; a character outside words between them is part of one run that takes in what is no
word at the end of the first and at the start of the second.
-/

namespace Querent.Text

variable {c : Char} {before after text run rest : List Char}

/-! ## Word characters -/

theorem isWordChar_of_isBlank (blank : isBlank c = true) : isWordChar c = false :=
  forall_inSpans (P := fun c => isWordChar c = false) (by decide +kernel) blank

theorem not_isBlank (inWord : isWordChar c = true) : ¬isBlank c = true := by
  intro blank
  rw [isWordChar_of_isBlank blank] at inWord
  cases inWord

theorem isWordChar_of_toLower (small : c.toLower.isLower = true) : isWordChar c = true := by
  have short : c.toNat < 0x80 := by
    by_contra large
    rw [toLower_eq_self large] at small
    have atMost : c.val ≤ 'z'.val := of_decide_eq_true (Bool.and_eq_true_iff.1 small).2
    exact large (Nat.lt_of_le_of_lt (UInt32.le_iff_toNat_le.1 atMost) (by decide))
  exact forall_ascii (P := fun c => c.toLower.isLower = true → isWordChar c = true) (by decide) short small

/-- What folds to a small letter is part of a word. -/
theorem isWordChar_of_foldChar (small : (foldChar c).isLower = true) : isWordChar c = true := by
  unfold foldChar at small
  split at small
  next isLong =>
    rw [beq_iff_eq.1 isLong]
    decide +kernel
  next =>
    split at small
    next isKelvin =>
      rw [beq_iff_eq.1 isKelvin]
      decide +kernel
    next => exact isWordChar_of_toLower small

/-! ## Runs -/

/-- Whether a text is not empty and consists of word characters only, or of other characters only. -/
structure IsRun (word : Bool) (run : List Char) : Prop where
  nonempty : run ≠ []
  uniform : ∀ c ∈ run, isWordChar c = word

/-- Whether no run goes on from one text into the next. -/
def Parted (before after : List Char) : Prop :=
  ∀ c ∈ before.getLast?, ∀ d ∈ after.head?, isWordChar c ≠ isWordChar d

variable {word : Bool}

theorem parted_nil (before : List Char) : Parted before [] := by
  intro c _ d isFirst
  cases isFirst

theorem Parted.append (parted : Parted before run) (nonempty : run ≠ []) (rest : List Char) :
    Parted before (run ++ rest) := by
  intro c isLast d isFirst
  rw [List.head?_append_of_ne_nil _ nonempty] at isFirst
  exact parted c isLast d isFirst

theorem runs_append (parted : Parted before after) :
    runs (before ++ after) = runs before ++ runs after := by
  apply List.splitBy_append
  intro c isLast d isFirst
  exact beq_eq_false_iff_ne.2 (parted c isLast d isFirst)

namespace IsRun

theorem runs_eq (isRun : IsRun word run) : runs run = [run] := by
  apply List.splitBy_of_isChain isRun.nonempty
  apply List.Pairwise.isChain
  apply List.pairwise_of_forall_mem_list
  intro c member d also
  rw [isRun.uniform c member, isRun.uniform d also, BEq.rfl]

theorem runs_append (isRun : IsRun word run) (parted : Parted run rest) :
    runs (run ++ rest) = run :: runs rest := by
  rw [Text.runs_append parted, isRun.runs_eq, List.singleton_append]

theorem cons (isRun : IsRun word run) : ∃ c rest, run = c :: rest ∧ isWordChar c = word ∧
    ∀ d ∈ rest, isWordChar d = word := by
  cases run with
  | nil => exact absurd rfl isRun.nonempty
  | cons c rest => exact ⟨c, rest, rfl, List.forall_mem_cons.1 isRun.uniform⟩

theorem last (isRun : IsRun word run) : ∃ c, run.getLast? = some c ∧ isWordChar c = word := by
  refine ⟨_, List.getLast?_eq_some_getLast isRun.nonempty, ?_⟩
  exact isRun.uniform _ (List.getLast_mem isRun.nonempty)

theorem parted_iff (isRun : IsRun word run) :
    Parted run rest ↔ ∀ d ∈ rest.head?, isWordChar d = !word := by
  rcases isRun.last with ⟨c, isLast, kind⟩
  rw [Parted, isLast]
  simp only [Option.mem_some_iff, forall_eq', kind]
  refine forall₂_congr fun d _ => ?_
  rw [ne_comm, Bool.eq_not]

/-- A run of word characters is followed by a run of others, and the other way round. -/
theorem next {other : Bool} {next : List Char} (isRun : IsRun word run) (isNext : IsRun other next)
    (parted : Parted run (next ++ rest)) : other = !word := by
  rcases isNext.cons with ⟨c, tail, rfl, ofKind, -⟩
  rw [← ofKind]
  exact isRun.parted_iff.1 parted c rfl

end IsRun

/-- A text that is not empty starts with a run. -/
theorem exists_run (nonempty : text ≠ []) :
    ∃ word run rest, text = run ++ rest ∧ IsRun word run ∧ Parted run rest := by
  cases text with
  | nil => exact absurd rfl nonempty
  | cons c others =>
    have isRun : IsRun (isWordChar c)
        ((c :: others).takeWhile fun d => isWordChar d == isWordChar c) := by
      constructor
      · simp
      · intro d member
        simpa using List.mem_takeWhile_imp member
    refine ⟨_, _, _, List.takeWhile_append_dropWhile.symm, isRun, isRun.parted_iff.2 ?_⟩
    intro d isFirst
    have stops := List.head?_dropWhile_not (fun d => isWordChar d == isWordChar c) (c :: others)
    rw [isFirst] at stops
    exact Bool.eq_not.2 (by simpa using stops)

/-- A property of texts that is inherited from what follows the first run holds for all texts. -/
theorem runs_induction {motive : List Char → Prop} (nil : motive [])
    (append : ∀ word run rest, IsRun word run → Parted run rest → motive rest → motive (run ++ rest))
    (text : List Char) : motive text := by
  induction length : text.length using Nat.strong_induction_on generalizing text with
  | _ n ih =>
    by_cases empty : text = []
    · rw [empty]
      exact nil
    · rcases exists_run empty with ⟨word, run, rest, rfl, isRun, parted⟩
      have shorter : rest.length < n := by
        have some := List.length_pos_iff.2 isRun.nonempty
        rw [List.length_append] at length
        omega
      exact append word run rest isRun parted (ih _ shorter rest rfl)

/-- A text that is not empty ends with a run. -/
theorem exists_last_run (nonempty : text ≠ []) :
    ∃ word front run, text = front ++ run ∧ IsRun word run ∧ Parted front run := by
  rcases exists_run (List.reverse_ne_nil_iff.2 nonempty) with ⟨word, run, rest, whole, isRun, parted⟩
  refine ⟨word, rest.reverse, run.reverse, ?_, ?_, ?_⟩
  · rw [← List.reverse_append, ← whole, List.reverse_reverse]
  · exact ⟨List.reverse_ne_nil_iff.2 isRun.nonempty,
      fun c member => isRun.uniform c (List.mem_reverse.1 member)⟩
  · intro c isLast d isFirst
    rw [List.getLast?_reverse] at isLast
    rw [List.head?_reverse] at isFirst
    exact (parted d isFirst c isLast).symm

/-- A property of texts that is inherited from what precedes the last run holds for all texts. -/
theorem runs_reverse_induction {motive : List Char → Prop} (nil : motive [])
    (append : ∀ word front run, IsRun word run → Parted front run → motive front →
      motive (front ++ run))
    (text : List Char) : motive text := by
  induction length : text.length using Nat.strong_induction_on generalizing text with
  | _ n ih =>
    by_cases empty : text = []
    · rw [empty]
      exact nil
    · rcases exists_last_run empty with ⟨word, front, run, rfl, isRun, parted⟩
      have shorter : front.length < n := by
        have some := List.length_pos_iff.2 isRun.nonempty
        rw [List.length_append] at length
        omega
      exact append word front run isRun parted (ih _ shorter front rfl)

/-- Behind a word there is no other, or one behind what is no word. -/
theorem exists_next_word (isRun : IsRun true run) (parted : Parted run rest) :
    (∀ c ∈ rest, isWordChar c = false) ∨
      ∃ gap last behind, rest = gap ++ (last ++ behind) ∧ IsRun false gap ∧ IsRun true last ∧
        Parted gap (last ++ behind) ∧ Parted last behind := by
  by_cases none : rest = []
  · left
    rw [none]
    exact List.forall_mem_nil _
  rcases exists_run none with ⟨kind, gap, others, rfl, isGap, parted'⟩
  obtain rfl := isRun.next isGap parted
  by_cases ends : others = []
  · left
    rw [ends, List.append_nil]
    exact isGap.uniform
  rcases exists_run ends with ⟨kind, last, behind, rfl, isLast, parted''⟩
  obtain rfl := isGap.next isLast parted'
  exact .inr ⟨gap, last, behind, rfl, isGap, isLast, parted', parted''⟩

/-! ## Boundaries -/

theorem isWordNeighbour_eq_false {neighbour : Option Char}
    (outside : ∀ c ∈ neighbour, isWordChar c = false) : isWordNeighbour neighbour = false := by
  cases neighbour with
  | none => rfl
  | some c => exact outside c rfl

theorem parted_of_isBoundary
    (boundary : isBoundary before.getLast? after.head? = true) : Parted before after := by
  intro c isLast d isFirst
  rw [isLast, isFirst] at boundary
  exact bne_iff_ne.1 boundary

/-- A run of word characters that is parted from what precedes it starts at a boundary. -/
theorem isBoundary_of_parted (isRun : IsRun true run) (parted : Parted before run) :
    isBoundary before.getLast? run.head? = true := by
  rcases isRun.cons with ⟨c, others, rfl, member, -⟩
  have outside : isWordNeighbour before.getLast? = false := by
    apply isWordNeighbour_eq_false
    intro d isLast
    have differs := parted d isLast c rfl
    rw [member] at differs
    exact Bool.eq_false_iff.2 differs
  rw [List.head?_cons, isBoundary, outside, isWordNeighbour, member]
  rfl

/-- A run of word characters ends at a boundary if what follows it starts with no word character. -/
theorem isBoundary_of_stops (isRun : IsRun true run)
    (stops : ∀ c ∈ rest.head?, isWordChar c = false) : isBoundary run.getLast? rest.head? = true := by
  rcases isRun.last with ⟨d, isLast, member⟩
  rw [isBoundary, isLast, isWordNeighbour, member, isWordNeighbour_eq_false stops]
  rfl

/-! ## A character between two texts -/

/-- What is no word at the start of a text makes at most one run. -/
theorem exists_gap_start (text : List Char) :
    ∃ gap rest, text = gap ++ rest ∧ (∀ d ∈ gap, isWordChar d = false) ∧
      (∀ d ∈ rest.head?, isWordChar d = true) := by
  refine ⟨text.takeWhile (!isWordChar ·), _, List.takeWhile_append_dropWhile.symm, ?_, ?_⟩
  · intro d member
    simpa using List.mem_takeWhile_imp member
  · intro d isFirst
    have stops := List.head?_dropWhile_not (!isWordChar ·) text
    rw [isFirst] at stops
    simpa using stops

theorem exists_gap_end (text : List Char) :
    ∃ front gap, text = front ++ gap ∧ (∀ d ∈ gap, isWordChar d = false) ∧
      (∀ d ∈ front.getLast?, isWordChar d = true) := by
  rcases exists_gap_start text.reverse with ⟨gap, rest, whole, outside, stops⟩
  refine ⟨rest.reverse, gap.reverse, ?_, ?_, ?_⟩
  · rw [← List.reverse_append, ← whole, List.reverse_reverse]
  · intro d member
    exact outside d (List.mem_reverse.1 member)
  · intro d isLast
    rw [List.getLast?_reverse] at isLast
    exact stops d isLast

/-- Of what is no word there is at most one run. -/
theorem runs_of_outside {gap : List Char} (outside : ∀ d ∈ gap, isWordChar d = false) :
    gap = [] ∨ IsRun false gap ∧ runs gap = [gap] := by
  by_cases empty : gap = []
  · exact .inl empty
  · have isRun : IsRun false gap := ⟨empty, outside⟩
    exact .inr ⟨isRun, isRun.runs_eq⟩

/--
A character that is no part of a word, between two texts, is in a run that takes in what is no word at the
end of the first and at the start of the second; the other runs are those of the two texts.
-/
theorem exists_runs_around (outside : isWordChar c = false) (before after : List Char) :
    ∃ front gap gap' rest,
      (∀ d ∈ gap, isWordChar d = false) ∧ (∀ d ∈ gap', isWordChar d = false) ∧
      runs before = runs front ++ runs gap ∧ runs after = runs gap' ++ runs rest ∧
      runs (before ++ c :: after) = runs front ++ (gap ++ c :: gap') :: runs rest := by
  rcases exists_gap_end before with ⟨front, gap, rfl, gapOutside, frontEnds⟩
  rcases exists_gap_start after with ⟨gap', rest, rfl, gapOutside', restStarts⟩
  have middle : IsRun false (gap ++ c :: gap') := by
    refine ⟨by simp, ?_⟩
    simpa only [List.forall_mem_append, List.forall_mem_cons] using
      ⟨gapOutside, outside, gapOutside'⟩
  have first {part : List Char} (inGap : ∀ d ∈ part, isWordChar d = false) : Parted front part := by
    intro d isLast e isFirst
    rw [frontEnds d isLast, inGap e (List.mem_of_mem_head? isFirst)]
    decide
  have second {part : List Char} (inGap : ∀ d ∈ part, isWordChar d = false) : Parted part rest := by
    intro d isLast e isFirst
    rw [restStarts e isFirst, inGap d (List.mem_of_mem_getLast? isLast)]
    decide
  refine ⟨front, gap, gap', rest, gapOutside, gapOutside', runs_append (first gapOutside),
    runs_append (second gapOutside'), ?_⟩
  have whole : front ++ gap ++ c :: (gap' ++ rest) = front ++ ((gap ++ c :: gap') ++ rest) := by simp
  have parted := (first middle.uniform).append middle.nonempty rest
  rw [whole, runs_append parted, middle.runs_append (second middle.uniform)]

end Querent.Text
