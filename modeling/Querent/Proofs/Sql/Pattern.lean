import Querent.Proofs.Text.Words
import Querent.Sql.Correction

/-!
# Patterns of words

A pattern is made of word boundaries, words in any letter case, and blanks.  It is searched for in a text
from the left, and the search goes on behind each match.  A pattern that starts with a whole word matches
nowhere but at the start of a run of word characters, so what is found is what is counted in the runs.
-/

namespace Querent.Sql

open Text

/-! ## Patterns -/

/-- A part of a pattern. -/
inductive PatternPart where
  /-- A boundary between a word and what is no word. -/
  | boundary
  /-- One of some words, in any letter case. -/
  | oneOf (words : List String)
  /-- One blank or more, as many as there are. -/
  | blanks

/--
How many characters a pattern takes from the start of a text, given the character before it.  What follows
blanks in a pattern is a word, so it never helps to take fewer of them than there are.
-/
def taken : List PatternPart → Option Char → List Char → Option Nat
  | [], _, _ => some 0
  | .boundary :: parts, before, text =>
    if isBoundary before text.head? then taken parts before text else none
  | .oneOf words :: parts, before, text =>
    words.findSome? fun word =>
      if fold (text.take word.length) == word.toList then
        (taken parts ((text.take word.length).getLast?.or before) (text.drop word.length)).map
          (word.length + ·)
      else none
  | .blanks :: parts, _, text =>
    if (text.takeWhile isBlank).isEmpty then none
    else
      (taken parts (text.takeWhile isBlank).getLast? (text.dropWhile isBlank)).map
        ((text.takeWhile isBlank).length + ·)

/--
How often a pattern is found in a text, given the character before it and how many characters are skipped
first: the search goes on behind what was taken.
-/
def found (pattern : List PatternPart) : Option Char → Nat → List Char → Nat
  | _, _, [] => 0
  | _, skip + 1, c :: rest => found pattern (some c) skip rest
  | before, 0, c :: rest =>
    match taken pattern before (c :: rest) with
    | some length => found pattern (some c) (length - 1) rest + 1
    | none => found pattern (some c) 0 rest

/-- Whether all words are written in small letters, at least one each. -/
def Small (words : List String) : Prop :=
  ∀ word ∈ words, word.toList ≠ [] ∧ ∀ c ∈ word.toList, c.isLower = true

/-- The letters are gone through, which ends, and not all characters there are. -/
instance (words : List String) : Decidable (Small words) :=
  decidable_of_iff
      ((words.all fun word => !word.toList.isEmpty && word.toList.all Char.isLower) = true) (by
    simp [Small])

variable {pattern parts : List PatternPart} {words : List String} {before : Option Char} {c : Char}
  {run rest text front : List Char}

/-! ## Words in small letters -/

theorem Small.pos (small : Small words) {word : String} (listed : word ∈ words) : 0 < word.length := by
  rw [← String.length_toList]
  exact List.length_pos_iff.2 (small word listed).1

/-- What folds to small letters consists of word characters. -/
theorem isWordChar_of_fold {letters : List Char} (small : ∀ c ∈ letters, c.isLower = true)
    (folds : fold front = letters) : ∀ c ∈ front, isWordChar c = true := by
  intro c member
  apply isWordChar_of_foldChar
  apply small
  rw [← folds]
  exact List.mem_map_of_mem member

theorem length_of_fold {word : String} (folds : fold front = word.toList) :
    front.length = word.length := by
  rw [← String.length_toList, ← folds, fold, List.length_map]

theorem isOneOf_eq_any (words : List String) (run : List Char) :
    isOneOf words run = words.any fun word => fold run == word.toList := by
  rw [isOneOf, List.contains_eq_any_beq]
  congr 1
  funext word
  rw [Bool.eq_iff_iff, beq_iff_eq, beq_iff_eq, ← String.toList_inj, String.toList_ofList]

theorem isOneOf_iff : isOneOf words run = true ↔ ∃ word ∈ words, fold run = word.toList := by
  rw [isOneOf_eq_any, List.any_eq_true]
  simp only [beq_iff_eq]

/-- A text without word characters is none of the words. -/
theorem isOneOf_of_outside (small : Small words) (outside : ∀ d ∈ run, isWordChar d = false) :
    isOneOf words run = false := by
  rw [Bool.eq_false_iff, ne_eq, isOneOf_iff]
  rintro ⟨word, listed, folds⟩
  rcases small word listed with ⟨nonempty, letters⟩
  have all := isWordChar_of_fold letters folds
  cases run with
  | nil => exact nonempty folds.symm
  | cons c rest =>
    have member := all c List.mem_cons_self
    rw [outside c List.mem_cons_self] at member
    cases member

theorem isRun_of_isOneOf (small : Small words) (listed : isOneOf words run = true) :
    IsRun true run := by
  rcases isOneOf_iff.1 listed with ⟨word, member, folds⟩
  rcases small word member with ⟨nonempty, letters⟩
  constructor
  · rintro rfl
    exact nonempty folds.symm
  · exact isWordChar_of_fold letters folds

/-! ## Matches -/

theorem taken_inside (inWord : isWordNeighbour before = true) (member : isWordChar c = true) :
    taken (.boundary :: parts) before (c :: rest) = none := by
  have same : isBoundary before (some c) = false := by
    rw [isBoundary, inWord, isWordNeighbour, member]
    rfl
  rw [taken, List.head?_cons, same]
  rfl

theorem taken_boundary (outside : isWordNeighbour before = false) (isRun : IsRun true run) :
    taken (.boundary :: parts) before (run ++ rest) = taken parts before (run ++ rest) := by
  rcases isRun.cons with ⟨c, others, rfl, member, -⟩
  have differs : isBoundary before (some c) = true := by
    rw [isBoundary, outside, isWordNeighbour, member]
    rfl
  rw [taken, List.cons_append, List.head?_cons, differs, if_pos rfl]

/-- No word starts where there is no word character. -/
theorem taken_oneOf_of_outside (small : Small words)
    (outside : ∀ c ∈ text.head?, isWordChar c = false) :
    taken (.oneOf words :: parts) before text = none := by
  rw [taken, List.findSome?_eq_none_iff]
  intro word listed
  rcases small word listed with ⟨nonempty, letters⟩
  have differs : fold (text.take word.length) ≠ word.toList := by
    intro folds
    have all := isWordChar_of_fold letters folds
    cases text with
    | nil =>
      rw [List.take_nil] at folds
      exact nonempty folds.symm
    | cons c rest =>
      have member : c ∈ (c :: rest).take word.length := by
        rw [List.take_cons (small.pos listed)]
        exact List.mem_cons_self
      have inWord := all c member
      rw [outside c rfl] at inWord
      cases inWord
  exact if_neg (by simpa using differs)

theorem findSome?_ite {α β : Type} (p : α → Bool) (x : Option β) (all : List α) :
    (all.findSome? fun a => if p a then x else none) = if all.any p then x else none := by
  induction all with
  | nil => rfl
  | cons a all ih =>
    rw [List.findSome?_cons, ih, List.any_cons]
    cases p a with
    | false => rfl
    | true => cases x <;> simp

theorem findSome?_congr {α β : Type} {f g : α → Option β} {all : List α}
    (same : ∀ a ∈ all, f a = g a) : all.findSome? f = all.findSome? g := by
  induction all with
  | nil => rfl
  | cons a all ih =>
    rcases List.forall_mem_cons.1 same with ⟨here, others⟩
    rw [List.findSome?_cons, List.findSome?_cons, here, ih others]

/-- What does not match in front of a word character does not match inside a run of them. -/
theorem taken_within (isRun : IsRun true run)
    (stops : ∀ d e others, isWordChar d = true → isWordChar e = true →
      taken parts (some d) (e :: others) = none)
    {n : Nat} (positive : 0 < n) (shorter : n < run.length) :
    taken parts (((run ++ rest).take n).getLast?.or before) ((run ++ rest).drop n) = none := by
  have taking : (run.take n).length = n := List.length_take_of_le shorter.le
  have dropping : (run.drop n).length = run.length - n := List.length_drop
  have start : IsRun true (run.take n) :=
    ⟨List.length_pos_iff.1 (by omega), fun d member => isRun.uniform d (List.mem_of_mem_take member)⟩
  have others : IsRun true (run.drop n) :=
    ⟨List.length_pos_iff.1 (by omega), fun d member => isRun.uniform d (List.mem_of_mem_drop member)⟩
  rcases start.last with ⟨d, isLast, inWord⟩
  rcases others.cons with ⟨e, tail, behind, goesOn, -⟩
  rw [List.take_append_of_le_length shorter.le, List.drop_append_of_le_length shorter.le, isLast, behind]
  exact stops d e _ inWord goesOn

/-- No word reaches into what follows a run of word characters. -/
theorem fold_take_ne {word : String} (letters : ∀ c ∈ word.toList, c.isLower = true)
    (isRun : IsRun true run) (parted : Parted run rest) (longer : run.length < word.length) :
    fold ((run ++ rest).take word.length) ≠ word.toList := by
  intro folds
  have all := isWordChar_of_fold letters folds
  have reached := length_of_fold folds
  cases rest with
  | nil =>
    rw [List.append_nil, List.take_of_length_le longer.le] at reached
    exact longer.ne reached
  | cons e others =>
    have member : e ∈ (run ++ e :: others).take word.length := by
      rw [List.take_append, List.take_cons (Nat.sub_pos_of_lt longer)]
      exact List.mem_append_right _ List.mem_cons_self
    have outside := isRun.parted_iff.1 parted e rfl
    rw [all e member] at outside
    cases outside

/--
Words are compared with a whole run if what follows them in the pattern does not match in front of a word
character.
-/
theorem taken_oneOf (small : Small words) (isRun : IsRun true run) (parted : Parted run rest)
    (stops : ∀ d e others, isWordChar d = true → isWordChar e = true →
      taken parts (some d) (e :: others) = none) :
    taken (.oneOf words :: parts) before (run ++ rest) =
      if isOneOf words run then (taken parts run.getLast? rest).map (run.length + ·) else none := by
  rw [isOneOf_eq_any, ← findSome?_ite, taken]
  apply findSome?_congr
  intro word listed
  by_cases same : word.length = run.length
  · rw [same, List.take_left, List.drop_left]
    rcases isRun.last with ⟨d, isLast, -⟩
    rw [isLast]
    rfl
  · have differs : ¬(fold run == word.toList) = true := by
      intro folds
      exact same (length_of_fold (beq_iff_eq.1 folds)).symm
    rw [if_neg differs]
    rcases Nat.lt_or_gt_of_ne same with shorter | longer
    · rw [taken_within isRun stops (small.pos listed) shorter]
      exact ite_self _
    · apply if_neg
      rw [beq_iff_eq]
      exact fold_take_ne (small word listed).2 isRun parted longer

/-- Behind a run of word characters there is a boundary. -/
theorem taken_end (isRun : IsRun true run) (parted : Parted run rest) :
    taken [.boundary] run.getLast? rest = some 0 := by
  rw [taken, isBoundary_of_stops isRun (isRun.parted_iff.1 parted)]
  rfl

/-- A word with a boundary behind it is a whole run. -/
theorem taken_oneOf_end (small : Small words) (isRun : IsRun true run) (parted : Parted run rest) :
    taken [.oneOf words, .boundary] before (run ++ rest) =
      if isOneOf words run then some run.length else none := by
  have stops (d e : Char) (others : List Char) (inWord : isWordChar d = true)
      (goesOn : isWordChar e = true) : taken [.boundary] (some d) (e :: others) = none :=
    taken_inside (by exact inWord) goesOn
  rw [taken_oneOf small isRun parted stops, taken_end isRun parted]
  rfl

/-- A pattern of one word matches at the start of a run that is the word, and takes the run. -/
theorem taken_word (small : Small words) (outside : isWordNeighbour before = false)
    (isRun : IsRun true run) (parted : Parted run rest) :
    taken [.boundary, .oneOf words, .boundary] before (run ++ rest) =
      if isOneOf words run then some run.length else none := by
  rw [taken_boundary outside isRun, taken_oneOf_end small isRun parted]

theorem getLast?_cons_or (c : Char) (front : List Char) (before : Option Char) :
    (c :: front).getLast?.or before = front.getLast?.or (some c) := by
  rw [List.getLast?_cons]
  cases front.getLast? <;> rfl

theorem found_skip (pattern : List PatternPart) (before : Option Char) (run rest : List Char) :
    found pattern before run.length (run ++ rest) = found pattern (run.getLast?.or before) 0 rest := by
  induction run generalizing before with
  | nil => rfl
  | cons c run ih =>
    rw [List.length_cons, List.cons_append, found, ih, getLast?_cons_or]

theorem found_of_none (nothing : taken pattern before (c :: rest) = none) :
    found pattern before 0 (c :: rest) = found pattern (some c) 0 rest := by
  rw [found, nothing]

/-- Nothing is found in what is no word. -/
theorem found_gap (small : Small words) (outside : ∀ d ∈ run, isWordChar d = false) :
    found (.boundary :: .oneOf words :: parts) before 0 (run ++ rest) =
      found (.boundary :: .oneOf words :: parts) (run.getLast?.or before) 0 rest := by
  induction run generalizing before with
  | nil => rfl
  | cons c run ih =>
    rcases List.forall_mem_cons.1 outside with ⟨here, others⟩
    have nothing : taken (.boundary :: .oneOf words :: parts) before (c :: (run ++ rest)) = none := by
      rw [taken, taken_oneOf_of_outside small (by simpa using here)]
      exact ite_self _
    rw [List.cons_append, found_of_none nothing, ih others, getLast?_cons_or]

/-- Nothing is found inside a word. -/
theorem found_inside (inWord : isWordNeighbour before = true)
    (word : ∀ d ∈ run, isWordChar d = true) :
    found (.boundary :: parts) before 0 (run ++ rest) =
      found (.boundary :: parts) (run.getLast?.or before) 0 rest := by
  induction run generalizing before with
  | nil => rfl
  | cons c run ih =>
    rcases List.forall_mem_cons.1 word with ⟨here, others⟩
    have goesOn : isWordNeighbour (some c) = true := here
    rw [List.cons_append, found_of_none (taken_inside inWord here), ih goesOn others,
      getLast?_cons_or]

/-- What is not found at the start of a word is not found in it. -/
theorem found_run_of_none (isRun : IsRun true run)
    (nothing : taken (.boundary :: parts) before (run ++ rest) = none) :
    found (.boundary :: parts) before 0 (run ++ rest) =
      found (.boundary :: parts) run.getLast? 0 rest := by
  rcases isRun.cons with ⟨c, others, rfl, here, inWord⟩
  rw [List.cons_append] at nothing ⊢
  have goesOn : isWordNeighbour (some c) = true := here
  rw [found_of_none nothing, found_inside goesOn inWord, ← getLast?_cons_or c others none,
    Option.or_none]

/-- The search goes on behind what is found. -/
theorem found_of_taken (nonempty : front ≠ [])
    (takes : taken pattern before (front ++ rest) = some front.length) :
    found pattern before 0 (front ++ rest) = found pattern front.getLast? 0 rest + 1 := by
  cases front with
  | nil => exact absurd rfl nonempty
  | cons c others =>
    rw [List.cons_append] at takes ⊢
    rw [found, takes, List.length_cons]
    simp only [Nat.add_sub_cancel]
    rw [found_skip, ← getLast?_cons_or c others none, Option.or_none]

/-- Whether the character before a text does not go on into a word. -/
def Starts (before : Option Char) (text : List Char) : Prop :=
  ∀ c ∈ text.head?, isWordChar c = true → isWordNeighbour before = false

theorem starts_of_isRun {word : Bool} (isRun : IsRun word run) (parted : Parted run rest) :
    Starts run.getLast? rest := by
  intro c isFirst inWord
  rcases isRun.last with ⟨d, isLast, -⟩
  rw [isLast]
  have differs := parted d isLast c isFirst
  rw [inWord] at differs
  exact Bool.eq_false_iff.2 differs

theorem Starts.outside (starts : Starts before (run ++ rest)) (isRun : IsRun true run) :
    isWordNeighbour before = false := by
  rcases isRun.cons with ⟨c, others, rfl, here, -⟩
  exact starts c rfl here

/-- Words that are found are counted in the runs. -/
theorem found_word (small : Small words) (text : List Char) (before : Option Char)
    (starts : Starts before text) :
    found [.boundary, .oneOf words, .boundary] before 0 text = wordCount words (runs text) := by
  induction text using runs_induction generalizing before with
  | nil => rfl
  | append word run rest isRun parted ih =>
    have others := ih _ (starts_of_isRun isRun parted)
    rw [isRun.runs_append parted, wordCount, List.countP_cons, ← wordCount, ← others]
    cases word with
    | false =>
      rw [isOneOf_of_outside small isRun.uniform, found_gap small isRun.uniform]
      rcases isRun.last with ⟨d, isLast, -⟩
      rw [isLast]
      rfl
    | true =>
      have takes := taken_word small (starts.outside isRun) isRun parted
      cases listed : isOneOf words run with
      | false =>
        rw [listed] at takes
        exact found_run_of_none isRun takes
      | true =>
        rw [listed] at takes
        exact found_of_taken isRun.nonempty takes

/-! ## Joins without a condition -/

/-- Nothing but blanks is taken between two words. -/
theorem taken_blanks (small : Small words) (isRun : IsRun false run) (parted : Parted run rest) :
    taken (.blanks :: .oneOf words :: parts) before (run ++ rest) =
      if run.all isBlank then
        (taken (.oneOf words :: parts) run.getLast? rest).map (run.length + ·)
      else none := by
  conv_lhs => rw [taken]
  cases blank : run.all isBlank with
  | true =>
    have all := List.all_eq_true.1 blank
    have stops : ∀ c ∈ rest.head?, ¬isBlank c = true := by
      intro c isFirst
      exact not_isBlank (isRun.parted_iff.1 parted c isFirst)
    have whole : (run ++ rest).takeWhile isBlank = run := by
      rw [List.takeWhile_append_of_pos all]
      cases rest with
      | nil => rw [List.takeWhile_nil, List.append_nil]
      | cons c others => rw [List.takeWhile_cons_of_neg (stops c rfl), List.append_nil]
    have behind : (run ++ rest).dropWhile isBlank = rest := by
      rw [List.dropWhile_append_of_pos all]
      cases rest with
      | nil => rfl
      | cons c others => rw [List.dropWhile_cons_of_neg (stops c rfl)]
    rw [whole, behind, if_neg (by simpa using isRun.nonempty), if_pos rfl]
  | false =>
    have solid : ¬IsBlankText run := by
      intro all
      rw [List.all_eq_true.2 all] at blank
      cases blank
    have behind := @trimStart_append_of_solid run rest solid
    unfold trimStart at behind
    have some : run.dropWhile isBlank ≠ [] := mt trimStart_eq_nil_iff.1 solid
    have outside : ∀ c ∈ (run.dropWhile isBlank ++ rest).head?, isWordChar c = false := by
      intro c isFirst
      rw [List.head?_append_of_ne_nil _ some] at isFirst
      exact isRun.uniform c ((List.dropWhile_sublist _).mem (List.mem_of_mem_head? isFirst))
    rw [behind, taken_oneOf_of_outside small outside, if_neg Bool.false_ne_true]
    exact ite_self _

theorem taken_blanks_inside (inWord : isWordChar c = true) :
    taken (.blanks :: parts) before (c :: rest) = none := by
  rw [taken, List.takeWhile_cons_of_neg (not_isBlank inWord)]
  rfl

/-- A join without a condition: the word, led by one of two words and blanks. -/
def crossJoin : List PatternPart :=
  [.boundary, .oneOf ["cross", "natural"], .blanks, .oneOf ["join"], .boundary]

/-- The pattern takes the runs it is made of. -/
theorem taken_crossJoin {gap last : List Char} (outside : isWordNeighbour before = false)
    (isRun : IsRun true run) (isGap : IsRun false gap) (isLast : IsRun true last)
    (parted : Parted run (gap ++ (last ++ rest))) (parted' : Parted gap (last ++ rest))
    (parted'' : Parted last rest) :
    taken crossJoin before (run ++ (gap ++ (last ++ rest))) =
      if isOneOf ["cross", "natural"] run && gap.all isBlank && isOneOf ["join"] last then
        some (run ++ (gap ++ last)).length
      else none := by
  rw [crossJoin, taken_boundary outside isRun,
    taken_oneOf (by decide) isRun parted fun _ _ _ _ => taken_blanks_inside,
    taken_blanks (by decide) isGap parted', taken_oneOf_end (by decide) isLast parted'',
    List.length_append, List.length_append]
  cases isOneOf ["cross", "natural"] run <;> cases gap.all isBlank <;>
    cases isOneOf ["join"] last <;> rfl

/-- The pattern does not match where it starts with another word. -/
theorem taken_crossJoin_of_other (outside : isWordNeighbour before = false) (isRun : IsRun true run)
    (parted : Parted run rest) (other : isOneOf ["cross", "natural"] run = false) :
    taken crossJoin before (run ++ rest) = none := by
  rw [crossJoin, taken_boundary outside isRun,
    taken_oneOf (by decide) isRun parted fun _ _ _ _ => taken_blanks_inside, other]
  rfl

/-- The pattern does not match where one word only is left. -/
theorem taken_crossJoin_of_last (outside : isWordNeighbour before = false) (isRun : IsRun true run)
    (parted : Parted run rest) (alone : ∀ c ∈ rest, isWordChar c = false) :
    taken crossJoin before (run ++ rest) = none := by
  have nothing : taken [.blanks, .oneOf ["join"], .boundary] run.getLast? rest = none := by
    rcases runs_of_outside alone with rfl | ⟨isGap, -⟩
    · rfl
    · have blanks := @taken_blanks [.boundary] ["join"] run.getLast? rest [] (by decide) isGap
        (parted_nil rest)
      rw [List.append_nil, taken_oneOf_of_outside (by decide) (by simp)] at blanks
      rw [blanks]
      exact ite_self _
  rw [crossJoin, taken_boundary outside isRun,
    taken_oneOf (by decide) isRun parted fun _ _ _ _ => taken_blanks_inside, nothing]
  exact ite_self _

theorem isOneOf_leaders_of_join (isJoin : isOneOf ["join"] run = true) :
    isOneOf ["cross", "natural"] run = false := by
  rw [isOneOf, List.contains_iff_mem, List.mem_singleton] at isJoin
  rw [isOneOf, isJoin]
  decide

theorem unconditionedJoins_cons (runs : List (List Char))
    (other : isOneOf ["cross", "natural"] run = false) :
    unconditionedJoins (run :: runs) = unconditionedJoins runs := by
  rcases runs with _ | ⟨gap, _ | ⟨last, rest⟩⟩
  · rfl
  · rfl
  · rw [unconditionedJoins, other]
    rfl

/-- Joins without a condition that are found are counted in the runs. -/
theorem found_crossJoin (text : List Char) (before : Option Char) (starts : Starts before text) :
    found crossJoin before 0 text = unconditionedJoins (runs text) := by
  induction text using runs_induction generalizing before with
  | nil => rfl
  | append word run rest isRun parted ih =>
    have others := ih _ (starts_of_isRun isRun parted)
    rw [isRun.runs_append parted]
    cases word with
    | false =>
      rcases isRun.last with ⟨d, isLast, -⟩
      rw [isLast] at others
      rw [crossJoin, found_gap (by decide) isRun.uniform, isLast, Option.some_or, ← crossJoin, others,
        unconditionedJoins_cons _ (isOneOf_of_outside (by decide) isRun.uniform)]
    | true =>
      have outside := starts.outside isRun
      rcases exists_next_word isRun parted with
        alone | ⟨gap, last, behind, rfl, isGap, isLast, parted', parted''⟩
      · have nothing := taken_crossJoin_of_last outside isRun parted alone
        rw [crossJoin, found_run_of_none isRun nothing, ← crossJoin, others]
        rcases runs_of_outside alone with rfl | ⟨-, single⟩
        · rfl
        · rw [single]
          rfl
      · have takes := taken_crossJoin outside isRun isGap isLast parted parted' parted''
        rw [isGap.runs_append parted', isLast.runs_append parted''] at others ⊢
        rw [unconditionedJoins]
        cases here : (isOneOf ["cross", "natural"] run && gap.all isBlank && isOneOf ["join"] last) with
        | false =>
          rw [here] at takes
          rw [crossJoin, found_run_of_none isRun takes, ← crossJoin, others]
          rfl
        | true =>
          rw [here] at takes
          have whole : run ++ (gap ++ (last ++ behind)) = run ++ (gap ++ last) ++ behind := by simp
          have ends : (run ++ (gap ++ last)).getLast? = last.getLast? := by
            rw [← List.append_assoc, List.getLast?_append_of_ne_nil _ isLast.nonempty]
          rw [Bool.and_eq_true] at here
          have other := isOneOf_leaders_of_join here.2
          rcases isGap.last with ⟨d, isEnd, ofGap⟩
          have outside' : isWordNeighbour gap.getLast? = false := by rwa [isEnd]
          have nothing := taken_crossJoin_of_other outside' isLast parted'' other
          rw [whole] at takes ⊢
          rw [found_of_taken (by simp [isRun.nonempty]) takes, ends, ← others, crossJoin,
            found_gap (by decide) isGap.uniform, isEnd, Option.some_or, ← isEnd,
            found_run_of_none isLast nothing]
          rfl

end Querent.Sql
