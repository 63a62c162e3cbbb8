import Querent.Proofs.Decimal.Digits
import Querent.Proofs.Decimal.Finite
import Querent.Proofs.Text.Slots
import Querent.Table.Amount

/-!
# Amounts of finite numbers

A finite number is shown in figures alone: digits, a sign, a point and commas.  Infinity is shown by
its name instead, and so is what is no number.
-/

namespace Querent

open Text

namespace Decimal

variable {places : Nat} {x : Float}

/-- Whether a character may stand in a finite number or an amount of dollars. -/
def isFigure (c : Char) : Bool :=
  isAsciiDigit c || ['.', ',', '-', '$'].contains c

/-- Whether a text names neither infinity nor what is no number. -/
def Plain (text : String) : Prop :=
  ¬ Mentions "NaN" text ∧ ¬ Mentions "inf" text

instance (text : String) : Decidable (Plain text) :=
  inferInstanceAs (Decidable (_ ∧ _))

/-- Whether a text shows a number: with the name of infinity exactly if the number is not finite. -/
structure Shows (x : Float) (text : String) : Prop where
  number : ¬ Mentions "NaN" text
  infinity : Mentions "inf" text ↔ x.isFinite = false

theorem plain_of_figures {text : String} (figures : ∀ c ∈ text.toList, isFigure c = true) :
    Plain text := by
  have absent {c : Char} (other : isFigure c = false) : c ∉ text.toList := by
    intro member
    rw [figures c member] at other
    cases other
  constructor
  · exact not_mentions_of_notMem (c := 'N') (by decide) (absent (by decide))
  · exact not_mentions_of_notMem (c := 'n') (by decide) (absent (by decide))

theorem shows_of_figures {text : String} (finite : x.isFinite = true)
    (figures : ∀ c ∈ text.toList, isFigure c = true) : Shows x text := by
  rcases plain_of_figures figures with ⟨number, infinity⟩
  constructor
  · exact number
  · rw [finite]
    exact iff_of_false infinity Bool.noConfusion

/-- A text that shows a finite number is plain. -/
theorem Shows.plain {text : String} (shows : Shows x text) (finite : x.isFinite = true) :
    Plain text := by
  constructor
  · exact shows.number
  · rw [shows.infinity, finite]
    exact Bool.noConfusion

theorem isFigure_of_mem_digits {n : Nat} {c : Char} (member : c ∈ digits n) : isFigure c = true := by
  rw [isFigure, isAsciiDigit_of_mem_digits member]
  rfl

theorem plain_toString (n : Nat) : Plain (toString n) := by
  apply plain_of_figures
  intro c member
  rw [Nat.toString_eq_repr, Nat.toList_repr] at member
  exact isFigure_of_mem_digits member

theorem isFigure_of_mem_paddedDigits {width n : Nat} {c : Char}
    (member : c ∈ paddedDigits width n) : isFigure c = true := by
  rcases List.mem_append.1 member with zero | digit
  · rw [(List.mem_replicate.1 zero).2]
    rfl
  · exact isFigure_of_mem_digits digit

theorem isFigure_of_mem_withPoint {units : Nat} {c : Char} (member : c ∈ withPoint places units) :
    isFigure c = true := by
  unfold withPoint at member
  simp only at member
  split at member
  next => exact isFigure_of_mem_paddedDigits (List.mem_of_mem_take member)
  next =>
    rcases List.mem_append.1 member with whole | after
    · exact isFigure_of_mem_paddedDigits (List.mem_of_mem_take whole)
    · rcases List.mem_cons.1 after with rfl | fraction
      · rfl
      · exact isFigure_of_mem_paddedDigits (List.mem_of_mem_drop fraction)

theorem isFigure_of_mem_signText {negative : Bool} {c : Char}
    (member : c ∈ (signText negative).toList) : isFigure c = true := by
  cases negative with
  | false => cases member
  | true =>
    rw [List.mem_singleton.1 member]
    rfl

/-- How a number with a fixed number of decimals is written. -/
theorem fixedText_cases (places : Nat) (x : Float) :
    (x.isFinite = true ∧ ∀ c ∈ (fixedText places x).toList, isFigure c = true) ∨
    (x.isFinite = false ∧ x.isNaN = false ∧
      ∃ negative, fixedText places x = signText negative ++ "inf") ∨
    (x.isNaN = true ∧ fixedText places x = "NaN") := by
  unfold fixedText
  rcases parts_cases x with ⟨finite, value, parts⟩ | ⟨infinite, number, negative, parts⟩ |
    ⟨undefined, parts⟩
  · left
    constructor
    · exact finite
    · intro c member
      rw [parts] at member
      simp only [String.toList_append, List.mem_append, String.toList_ofList] at member
      rcases member with sign | figure
      · exact isFigure_of_mem_signText sign
      · exact isFigure_of_mem_withPoint figure
  · right; left
    rw [parts]
    exact ⟨infinite, number, negative, rfl⟩
  · right; right
    rw [parts]
    exact ⟨undefined, rfl⟩

theorem shows_fixedText (places : Nat) (number : x.isNaN = false) :
    Shows x (fixedText places x) := by
  rcases fixedText_cases places x with ⟨finite, figures⟩ | ⟨infinite, _, negative, text⟩ |
    ⟨undefined, _⟩
  · exact shows_of_figures finite figures
  · rw [text]
    constructor
    · cases negative <;> decide
    · exact iff_of_true (by cases negative <;> decide) infinite
  · rw [number] at undefined
    cases undefined

end Decimal

namespace Amount

open Decimal

variable {x : Float}

/-! ## Rearranged figures -/

variable {text whole fraction : List Char} {c : Char}

theorem mem_of_mem_thousands (member : c ∈ thousands text) : c = ',' ∨ c ∈ text := by
  induction text with
  | nil => cases member
  | cons digit rest ih =>
    unfold thousands at member
    split at member <;> grind

theorem mem_of_mem_withoutTrailingZeros (member : c ∈ withoutTrailingZeros text) : c ∈ text := by
  rw [withoutTrailingZeros, List.mem_reverse] at member
  exact List.mem_reverse.1 ((List.dropWhile_sublist _).mem member)

theorem mem_of_mem_whole (member : c ∈ (splitPoint text).1) : c ∈ text :=
  (List.takeWhile_sublist _).mem member

theorem mem_of_mem_fraction (member : c ∈ (splitPoint text).2) : c ∈ text :=
  (List.dropWhile_sublist _).mem (List.mem_of_mem_drop member)

theorem mem_of_mem_joinPoint (member : c ∈ joinPoint whole fraction) :
    c = '.' ∨ c ∈ whole ∨ c ∈ fraction := by
  unfold joinPoint at member
  split at member <;> grind

theorem sign_eq (x : Float) (text : List Char) : sign x text = "" ∨ sign x text = "-" := by
  unfold sign
  split
  next => exact .inr rfl
  next => exact .inl rfl

theorem isFigure_of_mem_sign (member : c ∈ (sign x text).toList) : isFigure c = true := by
  rcases sign_eq x text with positive | minus
  · rw [positive] at member
    cases member
  · rw [minus] at member
    rw [List.mem_singleton.1 member]
    rfl

/-- The size of a finite number is shown in figures. -/
theorem isFigure_of_mem_magnitude {places : Nat} (finite : x.isFinite = true)
    (member : c ∈ magnitude places x) : isFigure c = true := by
  rcases fixedText_cases places x.abs with ⟨_, figures⟩ | ⟨infinite, _⟩ | ⟨undefined, _⟩
  · exact figures c member
  · rw [isFinite_abs, finite] at infinite
    cases infinite
  · rw [isNaN_abs, isNaN_of_isFinite finite] at undefined
    cases undefined

theorem isFigure_of_mem_joined (figures : ∀ c ∈ text, isFigure c = true)
    (within : ∀ c ∈ fraction, c ∈ text)
    (member : c ∈ joinPoint (thousands (splitPoint text).1) fraction) : isFigure c = true := by
  rcases mem_of_mem_joinPoint member with rfl | inWhole | inFraction
  · rfl
  · rcases mem_of_mem_thousands inWhole with rfl | figure
    · rfl
    · exact figures c (mem_of_mem_whole figure)
  · exact figures c (within c inFraction)

theorem shows_plain (number : x.isNaN = false) : Shows x (plain x) := by
  rcases fixedText_cases 3 x.abs with ⟨finite, _⟩ | ⟨infinite, _, negative, shown⟩ | ⟨undefined, _⟩
  · rw [isFinite_abs] at finite
    apply shows_of_figures finite
    intro c member
    rw [plain, String.toList_append, List.mem_append, String.toList_ofList] at member
    rcases member with inSign | figure
    · exact isFigure_of_mem_sign inSign
    · apply isFigure_of_mem_joined (fun c => isFigure_of_mem_magnitude finite) _ figure
      intro c inFraction
      exact mem_of_mem_fraction (mem_of_mem_withoutTrailingZeros inFraction)
  · rw [isFinite_abs] at infinite
    have named : ¬ Mentions "NaN" (plain x) ∧ Mentions "inf" (plain x) := by
      simp only [plain, magnitude, shown]
      rcases sign_eq x (signText negative ++ "inf").toList with positive | minus
      · rw [positive]
        cases negative <;> decide
      · rw [minus]
        cases negative <;> decide
    exact ⟨named.1, iff_of_true named.2 infinite⟩
  · rw [isNaN_abs, number] at undefined
    cases undefined

theorem plain_dollars (places : Nat) (finite : x.isFinite = true) : Plain (dollars places x) := by
  apply plain_of_figures
  intro c member
  rw [dollars] at member
  simp only [String.toList_append, List.mem_append, String.toList_ofList] at member
  rcases member with (inSign | dollar) | figure
  · exact isFigure_of_mem_sign inSign
  · rw [List.mem_singleton.1 dollar]
    rfl
  · exact isFigure_of_mem_joined (fun c => isFigure_of_mem_magnitude finite)
      (fun c => mem_of_mem_fraction) figure

end Amount

end Querent
