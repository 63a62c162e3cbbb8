import Mathlib.Data.List.DropRight
import Querent.Text.Blank

/-!
# Margins

A text is its trimmed form between two margins of blanks.  A text is *tidy* when it neither starts
nor ends with a blank.  The trimmed form is tidy, a tidy text is its own trimmed form, and margins
make no difference to the trimmed form.
-/

namespace Querent.Text

/-- The code points in a span. -/
def Span.codes (span : Span) : List Nat :=
  List.range' span.1 (span.2 + 1 - span.1)

theorem inSpans_iff {spans : List Span} {c : Char} :
    inSpans spans c = true ↔ c.toNat ∈ spans.flatMap Span.codes := by
  simp only [inSpans, List.any_eq_true, Bool.and_eq_true, decide_eq_true_eq, List.mem_flatMap,
    Span.codes, List.mem_range'_1]
  constructor
  · rintro ⟨span, member, atLeast, atMost⟩
    exact ⟨span, member, atLeast, by omega⟩
  · rintro ⟨span, member, atLeast, below⟩
    exact ⟨span, member, atLeast, by omega⟩

/-- What holds of every code point in some spans holds of every character in them. -/
theorem forall_inSpans {spans : List Span} {P : Char → Prop}
    (all : ∀ code ∈ spans.flatMap Span.codes, P (Char.ofNat code)) {c : Char}
    (inside : inSpans spans c = true) : P c := by
  have here := all c.toNat (inSpans_iff.1 inside)
  rwa [Char.ofNat_toNat] at here

/-- Whether a text consists of blanks. -/
def IsBlankText (text : List Char) : Prop :=
  ∀ c ∈ text, isBlank c = true

/-- Whether a text neither starts nor ends with a blank. -/
structure Tidy (text : List Char) : Prop where
  starts : ∀ c ∈ text.head?, isBlank c = false
  ends : ∀ c ∈ text.getLast?, isBlank c = false

instance (text : List Char) : Decidable (Tidy text) :=
  decidable_of_iff (text.head?.all (!isBlank ·) = true ∧ text.getLast?.all (!isBlank ·) = true) <| by
    rw [Option.all_eq_true, Option.all_eq_true]
    constructor
    · rintro ⟨starts, ends⟩
      exact ⟨by simpa using starts, by simpa using ends⟩
    · rintro ⟨starts, ends⟩
      exact ⟨by simpa using starts, by simpa using ends⟩

variable {text before after : List Char}

theorem isBlankText_nil : IsBlankText [] :=
  List.forall_mem_nil _

theorem isBlankText_append :
    IsBlankText (before ++ after) ↔ IsBlankText before ∧ IsBlankText after :=
  List.forall_mem_append

/-! ## One end -/

theorem trimStart_eq_nil_iff : trimStart text = [] ↔ IsBlankText text :=
  List.dropWhile_eq_nil_iff

theorem trimEnd_eq_nil_iff : trimEnd text = [] ↔ IsBlankText text :=
  List.rdropWhile_eq_nil_iff

theorem trimStart_eq_self_iff : trimStart text = text ↔ ∀ c ∈ text.head?, isBlank c = false := by
  cases text with
  | nil => simp [trimStart]
  | cons c rest => simp [trimStart]

theorem trimEnd_eq_self_iff : trimEnd text = text ↔ ∀ c ∈ text.getLast?, isBlank c = false := by
  refine List.rdropWhile_eq_self_iff.trans ⟨fun solid c isLast => ?_, fun solid nonempty => ?_⟩
  · obtain ⟨nonempty, rfl⟩ := List.mem_getLast?_eq_getLast isLast
    simpa using solid nonempty
  · simpa using solid _ (List.getLast_mem_getLast? nonempty)

theorem trimStart_append_of_blank (blank : IsBlankText before) :
    trimStart (before ++ text) = trimStart text :=
  List.dropWhile_append_of_pos blank

/-- A text that is not blank keeps all that follows it. -/
theorem trimStart_append_of_solid (solid : ¬ IsBlankText text) :
    trimStart (text ++ after) = trimStart text ++ after := by
  have kept : ¬ trimStart text = [] := mt trimStart_eq_nil_iff.1 solid
  unfold trimStart at kept ⊢
  rw [List.dropWhile_append, if_neg (by simpa using kept)]

theorem trimEnd_append_of_blank (blank : IsBlankText after) :
    trimEnd (text ++ after) = trimEnd text := by
  unfold trimEnd
  rw [List.reverse_append, List.dropWhile_append_of_pos fun c member => blank c (by simpa using member)]

/-- A text that is not blank keeps all that stands before it. -/
theorem trimEnd_append_of_solid (solid : ¬ IsBlankText text) :
    trimEnd (before ++ text) = before ++ trimEnd text := by
  have kept : ¬ trimEnd text = [] := mt trimEnd_eq_nil_iff.1 solid
  unfold trimEnd at kept ⊢
  rw [List.reverse_append, List.dropWhile_append, if_neg (by simpa using kept)]
  simp

theorem exists_trimStart (text : List Char) :
    ∃ before, IsBlankText before ∧ text = before ++ trimStart text :=
  ⟨text.takeWhile isBlank, fun _ member => List.mem_takeWhile_imp member,
    List.takeWhile_append_dropWhile.symm⟩

theorem exists_trimEnd (text : List Char) :
    ∃ after, IsBlankText after ∧ text = trimEnd text ++ after :=
  ⟨text.rtakeWhile isBlank, fun _ member => List.mem_rtakeWhile_imp member,
    List.rdropWhile_append_rtakeWhile.symm⟩

theorem trimEnd_cons_of_solid {c : Char} (solid : ¬ IsBlankText (c :: text)) :
    trimEnd (c :: text) = c :: trimEnd text := by
  by_cases blank : IsBlankText text
  · have notBlank : isBlank c = false := by
      by_contra isBlank
      exact solid (List.forall_mem_cons.2 ⟨Bool.of_not_eq_false isBlank, blank⟩)
    have kept : trimEnd [c] = [c] := trimEnd_eq_self_iff.2 (by simpa using notBlank)
    rw [trimEnd_eq_nil_iff.2 blank, ← kept]
    exact @trimEnd_append_of_blank [c] text blank
  · exact @trimEnd_append_of_solid text [c] blank

/-! ## Both ends -/

theorem trim_eq_nil_iff : trim text = [] ↔ IsBlankText text := by
  obtain ⟨before, blank, split⟩ := exists_trimStart text
  rw [trim, trimEnd_eq_nil_iff]
  constructor
  · intro solid
    rw [split]
    exact isBlankText_append.2 ⟨blank, solid⟩
  · intro all
    rw [trimStart_eq_nil_iff.2 all]
    exact isBlankText_nil

theorem trim_append_of_blank (blank : IsBlankText after) : trim (text ++ after) = trim text := by
  by_cases empty : IsBlankText text
  · rw [trim_eq_nil_iff.2 empty, trim_eq_nil_iff.2 (isBlankText_append.2 ⟨empty, blank⟩)]
  · rw [trim, trimStart_append_of_solid empty, trimEnd_append_of_blank blank, trim]

theorem trim_append_of_blank_before (blank : IsBlankText before) :
    trim (before ++ text) = trim text := by
  rw [trim, trimStart_append_of_blank blank, trim]

/-- A text is its trimmed form between margins. -/
theorem exists_trim (text : List Char) :
    ∃ before after, IsBlankText before ∧ IsBlankText after ∧
      text = before ++ (trim text ++ after) := by
  obtain ⟨before, blankBefore, split⟩ := exists_trimStart text
  obtain ⟨after, blankAfter, splitEnd⟩ := exists_trimEnd (trimStart text)
  exact ⟨before, after, blankBefore, blankAfter, by rw [trim, ← splitEnd, ← split]⟩

theorem Tidy.trim_eq (tidy : Tidy text) : trim text = text := by
  rw [trim, trimStart_eq_self_iff.2 tidy.starts, trimEnd_eq_self_iff.2 tidy.ends]

theorem tidy_trim (text : List Char) : Tidy (trim text) where
  starts := by
    intro c isFirst
    obtain ⟨after, split⟩ : trim text <+: trimStart text := List.rdropWhile_prefix _ _
    have inStart : c ∈ (trimStart text).head? := by
      rw [← split, List.head?_append, isFirst]
      rfl
    have kept : trimStart (trimStart text) = trimStart text := List.dropWhile_idempotent ..
    exact trimStart_eq_self_iff.1 kept c inStart
  ends := by
    have kept : trimEnd (trim text) = trim text := List.rdropWhile_idempotent ..
    exact trimEnd_eq_self_iff.1 kept

@[simp]
theorem trim_trim (text : List Char) : trim (trim text) = trim text :=
  (tidy_trim text).trim_eq

end Querent.Text
