import Mathlib.Data.List.Basic
import Querent.Proofs.Sql.Wording.Texts
import Querent.Proofs.Text.Blank

/-!
# Scanning for forbidden words

The scan reports the first forbidden word in the order of the list, wherever it stands in the text.
The report depends on nothing but which of the words the text mentions.  So neither the case of ASCII
letters nor blanks around the text make a difference, and a longer text can only mention more: what
it reports comes no later in the list.  One word of the list starts with another that comes before
it, so it is never reported itself.
-/

namespace Querent

theorem trimmed_margins {before after : String} (text : String)
    (blank : Text.IsBlankText before.toList) (blank' : Text.IsBlankText after.toList) :
    trimmed (before ++ text ++ after) = trimmed text := by
  rw [trimmed, trimmed, String.toList_append, String.toList_append,
    Text.trim_append_of_blank blank', Text.trim_append_of_blank_before blank]

namespace Sql

theorem isBreak_of_isBlank {c : Char} (blank : Text.isBlank c = true) : isBreak c = true :=
  Text.forall_inSpans (P := fun c => isBreak c = true) (by decide) blank

section Margins

variable {word before text after : List Char}

theorem not_infix_upper_of_blank (forbidden : word ∈ forbiddenLetters)
    (blank : Text.IsBlankText text) : ¬ word <:+: Text.upper text := by
  induction text with
  | nil =>
      intro mentioned
      have empty : word = [] := List.infix_nil.1 mentioned
      subst empty
      revert forbidden
      decide
  | cons c rest ih =>
      have both := List.forall_mem_cons.1 blank
      have parted := @infix_upper_append_cons_iff word [] rest c (isBreak_of_isBlank both.1) forbidden
      intro mentioned
      rcases parted.1 mentioned with inFront | behind
      · exact ih both.2 (inFront.trans List.nil_infix)
      · exact ih both.2 behind

/-- Blanks around a text do not change which forbidden words it mentions. -/
theorem infix_upper_margins_iff (forbidden : word ∈ forbiddenLetters)
    (blank : Text.IsBlankText before) (blank' : Text.IsBlankText after) :
    word <:+: Text.upper (before ++ (text ++ after)) ↔ word <:+: Text.upper text := by
  have start : ∀ rest, word <:+: Text.upper (before ++ rest) ↔ word <:+: Text.upper rest := by
    intro rest
    induction before with
    | nil => rfl
    | cons c before ih =>
        have both := List.forall_mem_cons.1 blank
        have parted := @infix_upper_append_cons_iff word [] (before ++ rest) c
          (isBreak_of_isBlank both.1) forbidden
        have nothing : ¬ word <:+: Text.upper [] :=
          not_infix_upper_of_blank forbidden Text.isBlankText_nil
        rw [List.cons_append, ← List.nil_append (c :: (before ++ rest)), parted, or_iff_right nothing,
          ih both.2]
  rw [start]
  cases after with
  | nil => rw [List.append_nil]
  | cons c after =>
      have both := List.forall_mem_cons.1 blank'
      rw [infix_upper_append_cons_iff (isBreak_of_isBlank both.1) forbidden,
        or_iff_left (not_infix_upper_of_blank forbidden both.2)]

end Margins

theorem toList_mem_forbiddenLetters {word : String} (forbidden : word ∈ forbiddenWords) :
    word.toList ∈ forbiddenLetters := by
  rw [← map_toList_forbiddenWords]
  exact List.mem_map_of_mem forbidden

theorem mentions_trimmed_iff {text word : String} (forbidden : word ∈ forbiddenWords) :
    Mentions (trimmed text) word ↔ Mentions text word := by
  rcases Text.exists_trim text.toList with ⟨before, after, blank, blank', whole⟩
  unfold Mentions trimmed
  rw [String.toList_ofList]
  conv => rhs; rw [whole]
  exact (infix_upper_margins_iff (toList_mem_forbiddenLetters forbidden) blank blank').symm

/-- Whether two texts are the same but for the case of their ASCII letters. -/
def SameLetters (text other : String) : Prop :=
  text.toList.map Char.toLower = other.toList.map Char.toLower

theorem SameLetters.upper_eq {text other : String} (same : SameLetters text other) :
    Text.upper text.toList = Text.upper other.toList := by
  rw [← Text.upper_map_toLower text.toList, same, Text.upper_map_toLower]

theorem upper_of_mem_forbiddenWords {word : String} (forbidden : word ∈ forbiddenWords) :
    Text.upper word.toList = word.toList := by
  have all : forbiddenLetters.all (fun letters => Text.upper letters == letters) = true := by decide
  exact beq_iff_eq.1 (List.all_eq_true.1 all word.toList (toList_mem_forbiddenLetters forbidden))

/-! ## Reports -/

theorem mentions_append {text word : String} (before after : String) (mentioned : Mentions text word) :
    Mentions (before ++ text ++ after) word := by
  unfold Mentions at mentioned ⊢
  rw [String.toList_append, String.toList_append, Text.upper_append, Text.upper_append]
  exact mentioned.trans ⟨_, _, rfl⟩

/-- Where a forbidden word is mentioned, it or one that comes before it is reported. -/
theorem exists_reported {text word : String} (forbidden : word ∈ forbiddenWords)
    (mentioned : Mentions text word) :
    ∃ found, forbiddenWord? text = some found ∧
      forbiddenWords.idxOf found ≤ forbiddenWords.idxOf word := by
  cases reported : forbiddenWord? text with
  | none => exact absurd mentioned (forbiddenWord?_eq_none_iff.1 reported word forbidden)
  | some found =>
      rcases forbiddenWord?_eq_some_iff.1 reported with ⟨before, after, split, unmentioned, present⟩
      have notEarlier : word ∉ before := fun earlier => unmentioned word earlier mentioned
      have first : found ∉ before := fun earlier => unmentioned found earlier present
      refine ⟨found, rfl, ?_⟩
      rw [split, List.idxOf_append_of_notMem first, List.idxOf_append_of_notMem notEarlier,
        List.idxOf_cons_self]
      exact Nat.add_le_add_left (Nat.zero_le _) _

/-- Texts that mention the same forbidden words get the same report. -/
theorem forbiddenWord?_congr {text other : String}
    (same : ∀ word ∈ forbiddenWords, Mentions text word ↔ Mentions other word) :
    forbiddenWord? text = forbiddenWord? other := by
  apply Option.ext
  intro word
  rw [forbiddenWord?_eq_some_iff, forbiddenWord?_eq_some_iff]
  unfold FirstForbidden
  refine exists_congr fun before => exists_congr fun after => and_congr_right fun split => ?_
  have listed : ∀ earlier ∈ before, earlier ∈ forbiddenWords := by
    intro earlier member
    rw [split]
    exact List.mem_append_left _ member
  apply and_congr
  · refine forall₂_congr fun earlier member => not_congr (same earlier (listed earlier member))
  · apply same
    rw [split]
    exact List.mem_append_right _ List.mem_cons_self

theorem forbiddenWord?_trimmed (text : String) :
    forbiddenWord? (trimmed text) = forbiddenWord? text :=
  forbiddenWord?_congr fun _ forbidden => mentions_trimmed_iff forbidden

theorem forbiddenWord?_of_sameLetters {text other : String} (same : SameLetters text other) :
    forbiddenWord? text = forbiddenWord? other :=
  forbiddenWord?_congr fun word _ => by rw [Mentions, Mentions, same.upper_eq]

/-- What mentions the longer of two words mentions the shorter one, which is reported instead. -/
theorem forbiddenWord?_ne_execute (text : String) : forbiddenWord? text ≠ some "EXECUTE" := by
  intro reported
  rcases forbiddenWord?_eq_some_iff.1 reported with ⟨-, -, -, -, mentioned⟩
  have shorter : Mentions text "EXEC" := by
    apply List.IsInfix.trans _ mentioned
    exact ⟨[], "UTE".toList, rfl⟩
  rcases exists_reported (by decide) shorter with ⟨found, reported', earlier⟩
  rw [reported] at reported'
  cases reported'
  revert earlier
  decide

theorem validate_margins (dialect : Dialect) (text : String) {before after : String}
    (blank : Text.IsBlankText before.toList) (blank' : Text.IsBlankText after.toList) :
    validate dialect (before ++ text ++ after) = validate dialect text := by
  rw [validate, validate, trimmed_margins text blank blank']

/--
The scan reports the first forbidden word of the list that the upper-case form of a text mentions,
and nothing exactly when it mentions none.  A word in any case is found wherever it stands, though an
earlier word may be reported instead; the case of ASCII letters makes no difference; around a text
nothing can hide what it mentions; `EXECUTE` is never reported; and blanks around a text change
neither the report nor the verdict.
-/
theorem scan_reports_first_forbidden :
    (∀ text word, forbiddenWord? text = some word ↔ FirstForbidden text word) ∧
    (∀ text, forbiddenWord? text = none ↔ ∀ word ∈ forbiddenWords, ¬ Mentions text word) ∧
    (∀ before variant after word, word ∈ forbiddenWords →
      SameLetters variant word ∨ Text.upper variant.toList = word.toList →
        ∃ found, forbiddenWord? (before ++ variant ++ after) = some found ∧
          forbiddenWords.idxOf found ≤ forbiddenWords.idxOf word) ∧
    (∀ text other, SameLetters text other → forbiddenWord? text = forbiddenWord? other) ∧
    (∀ before text after word, forbiddenWord? text = some word →
      ∃ found, forbiddenWord? (before ++ text ++ after) = some found ∧
        forbiddenWords.idxOf found ≤ forbiddenWords.idxOf word) ∧
    (∀ text, forbiddenWord? text ≠ some "EXECUTE") ∧
    (∀ text, forbiddenWord? (trimmed text) = forbiddenWord? text) ∧
    (∀ dialect before text after, Text.IsBlankText before.toList → Text.IsBlankText after.toList →
      validate dialect (before ++ text ++ after) = validate dialect text) := by
  constructor
  · intro text word
    exact forbiddenWord?_eq_some_iff
  constructor
  · intro text
    exact forbiddenWord?_eq_none_iff
  constructor
  · intro before variant after word forbidden spelled
    have upper : Text.upper variant.toList = word.toList := by
      rcases spelled with same | upper
      · rw [same.upper_eq, upper_of_mem_forbiddenWords forbidden]
      · exact upper
    apply exists_reported forbidden
    apply mentions_append
    rw [Mentions, upper]
  constructor
  · intro text other same
    exact forbiddenWord?_of_sameLetters same
  constructor
  · intro before text after word reported
    rcases forbiddenWord?_eq_some_iff.1 reported with ⟨_, _, split, -, mentioned⟩
    apply exists_reported _ (mentions_append before after mentioned)
    rw [split]
    exact List.mem_append_right _ List.mem_cons_self
  constructor
  · exact forbiddenWord?_ne_execute
  constructor
  · exact forbiddenWord?_trimmed
  · intro dialect before text after blank blank'
    exact validate_margins dialect text blank blank'

theorem scan_reports_first_forbidden_dotless :
    (∃ found, forbiddenWord? ("re" ++ "\u0131nsert" ++ "ed") = some found ∧
      forbiddenWords.idxOf found ≤ forbiddenWords.idxOf "INSERT") ∧
      forbiddenWord? "exeCute it" = forbiddenWord? "ExecutE IT" ∧
      (∃ found, forbiddenWord? ("drop, or " ++ "Grant" ++ ";") = some found ∧
        forbiddenWords.idxOf found ≤ forbiddenWords.idxOf "GRANT") ∧
      validate .duckDb ("\u00a0" ++ "SELECT 1" ++ "\u3000\n") = validate .duckDb "SELECT 1" := by
  rcases scan_reports_first_forbidden with ⟨-, -, spelled, cased, longer, -, -, margins⟩
  constructor
  · exact spelled "re" "\u0131nsert" "ed" "INSERT" (by decide) (.inr (by decide +kernel))
  constructor
  · exact cased "exeCute it" "ExecutE IT" (by unfold SameLetters; decide +kernel)
  constructor
  · exact longer "drop, or " "Grant" ";" "GRANT" (by decide +kernel)
  · apply margins
    · intro c member
      rcases List.mem_singleton.1 member with rfl
      rfl
    · intro c member
      rcases List.mem_pair.1 member with rfl | rfl
      · rfl
      · rfl

end Sql
end Querent
