import Mathlib.Data.List.Infix
import Querent.Text.Search

/-!
# First occurrences

A text is split at the first occurrence of a pattern exactly when the pattern occurs in it.  Where
the pattern stands after a text in which it does not occur, that is its first occurrence, unless it
already starts with an end of the text before.  It cannot do so if the text before ends with a
character that the pattern does not hold, nor if the pattern ends as none of its beginnings does.
-/

namespace Querent.Text

variable {pattern text before after : List Char}

/-- A list without some element stands on one side of this element. -/
theorem infix_append_cons_iff {α : Type} {piece before after : List α} {separator : α}
    (absent : separator ∉ piece) :
    piece <:+: before ++ separator :: after ↔ piece <:+: before ∨ piece <:+: after := by
  constructor
  · rintro ⟨front, back, whole⟩
    rcases List.append_eq_append_iff.1 whole with ⟨rest, rfl, _⟩ | ⟨rest, split, behind⟩
    · exact .inl ⟨front, rest, rfl⟩
    cases rest with
    | nil => exact .inl ⟨front, [], by rw [split, List.append_nil, List.append_nil]⟩
    | cons c rest =>
        cases behind
        rcases List.append_eq_append_iff.1 split with ⟨start, rfl, inside⟩ | ⟨start, rfl, inside⟩
        · exact absurd (by simp [inside]) absent
        · cases start with
          | nil => exact absurd (by simp [← show separator :: rest = piece from inside]) absent
          | cons d start =>
              cases inside
              exact .inr ⟨start, back, rfl⟩
  · rintro (inFront | behind)
    · exact inFront.trans (List.prefix_append _ _).isInfix
    · exact behind.trans ((List.suffix_cons _ _).trans (List.suffix_append _ _)).isInfix

theorem splitAtFirst_eq_none_iff : splitAtFirst pattern text = none ↔ ¬ pattern <:+: text := by
  induction text with
  | nil => simp [splitAtFirst, List.infix_nil]
  | cons c rest ih =>
      unfold splitAtFirst
      split
      next starts =>
        have inside : pattern <:+: c :: rest := (List.isPrefixOf_iff_prefix.1 starts).isInfix
        simp [inside]
      next later =>
        have notHere : ¬ pattern <+: c :: rest := mt List.isPrefixOf_iff_prefix.2 later
        rw [Option.map_eq_none_iff, ih, List.infix_cons_iff, not_or]
        exact ⟨fun absent => ⟨notHere, absent⟩, fun absent => absent.2⟩

/-- The pattern is found behind a text if it does not start before the end of that text. -/
theorem splitAtFirst_append
    (later : ∀ tail, tail <:+ before → tail ≠ [] → ¬ pattern <+: tail ++ (pattern ++ after)) :
    splitAtFirst pattern (before ++ (pattern ++ after)) = some (before, after) := by
  induction before with
  | nil =>
      have starts : pattern.isPrefixOf (pattern ++ after) = true :=
        List.isPrefixOf_iff_prefix.2 (List.prefix_append _ _)
      rw [List.nil_append]
      cases whole : pattern ++ after with
      | nil =>
          obtain ⟨rfl, rfl⟩ := List.append_eq_nil_iff.1 whole
          rfl
      | cons c rest =>
          rw [whole] at starts
          rw [splitAtFirst, if_pos starts, ← whole, List.drop_left]
  | cons c rest ih =>
      have notHere := later (c :: rest) List.suffix_rfl (List.cons_ne_nil _ _)
      rw [List.cons_append, splitAtFirst, if_neg (by rwa [List.isPrefixOf_iff_prefix]),
        ih fun tail suffix => later tail (suffix.trans (List.suffix_cons _ _))]
      rfl

/-- A pattern that starts with an end of a text in which it does not occur is longer than this end. -/
theorem isPrefix_of_starts {tail : List Char} (absent : ¬ pattern <:+: before)
    (suffix : tail <:+ before) (starts : pattern <+: tail ++ after) :
    tail <+: pattern ∧ tail.length < pattern.length := by
  rcases List.prefix_or_prefix_of_prefix starts (List.prefix_append tail after) with inside | longer
  · exact absurd (inside.isInfix.trans suffix.isInfix) absent
  · refine ⟨longer, Nat.lt_of_le_of_ne longer.length_le fun same => ?_⟩
    rw [longer.eq_of_length same] at suffix
    exact absurd suffix.isInfix absent

/-- A pattern is found behind a text that ends with a character that the pattern does not hold. -/
theorem splitAtFirst_append_of_last (absent : ¬ pattern <:+: before)
    (parted : ∀ c ∈ before.getLast?, c ∉ pattern) (after : List Char) :
    splitAtFirst pattern (before ++ (pattern ++ after)) = some (before, after) := by
  refine splitAtFirst_append fun tail suffix nonempty starts => ?_
  obtain ⟨start, _⟩ := isPrefix_of_starts absent suffix starts
  obtain ⟨front, rfl⟩ := suffix
  have isLast : tail.getLast nonempty ∈ (front ++ tail).getLast? := by
    rw [List.getLast?_append_of_ne_nil _ nonempty]
    exact List.getLast_mem_getLast? nonempty
  exact parted _ isLast (start.subset (List.getLast_mem nonempty))

/-- Whether no proper beginning of a pattern, apart from the empty one, is also an end of it. -/
def Unbordered (pattern : List Char) : Prop :=
  ∀ border, border <+: pattern → border <:+ pattern → border = [] ∨ border = pattern

/-- An unbordered pattern is found behind any text in which it does not occur. -/
theorem Unbordered.splitAtFirst_append (unbordered : Unbordered pattern)
    (absent : ¬ pattern <:+: before) :
    splitAtFirst pattern (before ++ (pattern ++ after)) = some (before, after) := by
  refine Text.splitAtFirst_append fun tail suffix nonempty starts => ?_
  obtain ⟨⟨border, rfl⟩, shorter⟩ := isPrefix_of_starts absent suffix starts
  have isStart : border <+: tail ++ border :=
    List.prefix_of_prefix_length_le ((List.prefix_append_right_inj tail).1 starts)
      (List.prefix_append _ _) (by simp)
  rcases unbordered border isStart (List.suffix_append _ _) with rfl | whole
  · simp at shorter
  · exact nonempty (List.self_eq_append_left.1 whole)

end Querent.Text
