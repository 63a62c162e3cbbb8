import Querent.Sql.Gateway

/-!
# Forbidden words

A text *mentions* a word when the word stands somewhere in the upper-case form of the text, whatever
surrounds it.  The gateway looks for the forbidden words in their order and reports the first one
that the text mentions.
-/

namespace Querent.Sql

/-- Whether a word stands in the upper-case form of a text. -/
def Mentions (text word : String) : Prop :=
  word.toList <:+: Text.upper text.toList

/-- Whether a word is the first forbidden word that a text mentions. -/
def FirstForbidden (text word : String) : Prop :=
  ∃ before after, forbiddenWords = before ++ word :: after ∧
    (∀ earlier ∈ before, ¬ Mentions text earlier) ∧ Mentions text word

theorem forbiddenWord?_eq_none_iff {text : String} :
    forbiddenWord? text = none ↔ ∀ word ∈ forbiddenWords, ¬ Mentions text word := by
  simp [forbiddenWord?, Mentions, Text.occursIn_iff]

theorem forbiddenWord?_eq_some_iff {text word : String} :
    forbiddenWord? text = some word ↔ FirstForbidden text word := by
  unfold forbiddenWord? FirstForbidden
  simp only [List.find?_eq_some_iff_append, Text.occursIn_iff, Mentions]
  constructor
  · rintro ⟨mentioned, before, after, split, absent⟩
    refine ⟨before, after, split, fun earlier member occurs => ?_, mentioned⟩
    have notFound := absent earlier member
    rw [Text.occursIn_iff.2 occurs] at notFound
    cases notFound
  · rintro ⟨before, after, split, absent, mentioned⟩
    refine ⟨mentioned, before, after, split, fun earlier member => ?_⟩
    cases found : Text.occursIn earlier.toList (Text.upper text.toList) with
    | false => rfl
    | true => exact absurd (Text.occursIn_iff.1 found) (absent earlier member)

/-- A piece of a text is mentioned by the whole text in its upper-case form. -/
theorem mentions_of_piece {text word : String} {piece : List Char}
    (inText : piece <:+: text.toList) (spelling : Text.upper piece = word.toList) :
    Mentions text word := by
  obtain ⟨before, after, whole⟩ := inText
  refine ⟨Text.upper before, Text.upper after, ?_⟩
  rw [← whole, ← spelling, Text.upper_append, Text.upper_append]

end Querent.Sql
