import Querent.Proofs.Text.Search

/-!
# Texts with slots

A text that is put together has slots for what varies and fixed wording between them.  If the wording
starts and ends with characters that a word does not hold, no occurrence of the word reaches over it:
the word occurs in the text exactly when it occurs in a slot.
-/

namespace Querent.Text

variable {word : String}

/-- Whether a word occurs in a text. -/
def Mentions (word text : String) : Prop :=
  word.toList <:+: text.toList

instance (text : String) : Decidable (Mentions word text) :=
  decidable_of_iff (occursIn word.toList text.toList = true) occursIn_iff

/-- Whether no occurrence of a word is in some wording or reaches into it or over it. -/
structure Separates (word wording : String) : Prop where
  first : ∀ c ∈ word.toList, wording.toList.head? ≠ some c
  last : ∀ c ∈ word.toList, wording.toList.getLast? ≠ some c
  absent : ¬ Mentions word wording
  nonempty : wording.toList ≠ []

/-- The characters of the word are gone through, which ends, and not all characters there are. -/
instance (word wording : String) : Decidable (Separates word wording) :=
  decidable_of_iff ((word.toList.all fun c => wording.toList.head? ≠ some c) = true ∧
      (word.toList.all fun c => wording.toList.getLast? ≠ some c) = true ∧
      ¬ Mentions word wording ∧ wording.toList ≠ []) (by
    rw [List.all_eq_true, List.all_eq_true]
    simp only [decide_eq_true_eq]
    exact ⟨fun ⟨first, last, absent, nonempty⟩ => ⟨first, last, absent, nonempty⟩,
      fun separates => ⟨separates.first, separates.last, separates.absent, separates.nonempty⟩⟩)

/-- The text made of slots, each with the wording that follows it. -/
def fill : List (String × String) → String
  | [] => ""
  | (slot, wording) :: rest => slot ++ wording ++ fill rest

theorem Separates.mentions_append_iff {wording : String} (separates : Separates word wording)
    (before after : String) :
    Mentions word (before ++ wording ++ after) ↔ Mentions word before ∨ Mentions word after := by
  rcases separates with ⟨atStart, atEnd, absent, nonempty⟩
  unfold Mentions at *
  rw [String.toList_append, String.toList_append]
  generalize wording.toList = all at *
  rcases List.exists_cons_of_ne_nil nonempty with ⟨first, rest, rfl⟩
  have outside : first ∉ word.toList := fun member => atStart first member rfl
  rw [List.append_assoc, List.cons_append, infix_append_cons_iff outside]
  rcases List.eq_nil_or_concat' (first :: rest) with none | ⟨front, last, split⟩
  · cases none
  have beyond : last ∉ word.toList := by
    intro member
    apply atEnd last member
    rw [split, List.getLast?_append, List.getLast?_singleton]
    rfl
  cases front with
  | nil =>
    cases split
    rfl
  | cons c front =>
    rcases List.cons.inj split with ⟨rfl, rfl⟩
    have inside : ¬ word.toList <:+: front := by
      intro occurs
      exact absent (occurs.trans ⟨[first], [last], rfl⟩)
    rw [List.append_eq, List.append_assoc, List.singleton_append, infix_append_cons_iff beyond,
      or_iff_right inside]

theorem mentions_empty_iff : Mentions word "" ↔ word = "" := by
  rw [Mentions, ← String.toList_inj]
  exact List.infix_nil

theorem mentions_fill_iff {parts : List (String × String)} (nonempty : word ≠ "")
    (separate : ∀ part ∈ parts, Separates word part.2) :
    Mentions word (fill parts) ↔ ∃ part ∈ parts, Mentions word part.1 := by
  induction parts with
  | nil => simp [fill, mentions_empty_iff, nonempty]
  | cons part rest ih =>
    rcases part with ⟨slot, wording⟩
    rcases List.forall_mem_cons.1 separate with ⟨separates, others⟩
    rw [fill, separates.mentions_append_iff, ih others, List.exists_mem_cons_iff]

/-- A word does not occur in a text that lacks one of its characters. -/
theorem not_mentions_of_notMem {c : Char} {text : String} (part : c ∈ word.toList)
    (absent : c ∉ text.toList) : ¬ Mentions word text := by
  intro occurs
  exact absent (occurs.mem part)

theorem replaceChar_eq_self {old : Char} (new : Char) {text : List Char} (absent : old ∉ text) :
    replaceChar old new text = text := by
  rw [replaceChar]
  conv_rhs => rw [← List.map_id text]
  apply List.map_congr_left
  intro c member
  have different : c ≠ old := by
    rintro rfl
    exact absent member
  rw [if_neg (by simpa using different), id]

/-- The replacement of a character is no matter for words with neither of the two. -/
theorem infix_replaceChar_iff {old new : Char} {text piece : List Char} (noOld : old ∉ piece)
    (noNew : new ∉ piece) : piece <:+: replaceChar old new text ↔ piece <:+: text := by
  constructor
  · intro occurs
    rcases List.infix_map_iff.1 occurs with ⟨read, inside, rfl⟩
    have absent : old ∉ read := by
      intro member
      exact noNew (List.mem_map.2 ⟨old, member, if_pos (beq_self_eq_true old)⟩)
    change replaceChar old new read <:+: text
    rw [replaceChar_eq_self new absent]
    exact inside
  · intro occurs
    rw [← replaceChar_eq_self new noOld]
    exact occurs.map _

end Querent.Text
