import Querent.Decimal.Digits
import Querent.Text.Digit

/-!
# Digits in a fixed number of places

A number that is written in a fixed number of places is read back from its digits, and of two numbers
in the same number of places the smaller one has the smaller text.
-/

namespace Querent.Decimal

/-! ## From numbers to digits -/

theorem digits_of_lt {n : Nat} (small : n < 10) : digits n = [n.digitChar] :=
  Nat.toDigits_of_lt_base small

theorem digits_of_le {n : Nat} (large : 10 ≤ n) :
    digits n = digits (n / 10) ++ [(n % 10).digitChar] :=
  Nat.toDigits_of_base_le (by decide) large

theorem padLeft_concat (width : Nat) (text : List Char) (c : Char) :
    padLeft (width + 1) (text ++ [c]) = padLeft width text ++ [c] := by
  have places : width + 1 - (text ++ [c]).length = width - text.length := by
    rw [List.length_append, List.length_singleton]
    omega
  rw [padLeft, padLeft, places, List.append_assoc]

theorem paddedDigits_one {n : Nat} (small : n < 10) : paddedDigits 1 n = [n.digitChar] := by
  rw [paddedDigits, digits_of_lt small]
  rfl

/-- The last place is that of the units. -/
theorem paddedDigits_succ {width : Nat} (wide : 0 < width) (n : Nat) :
    paddedDigits (width + 1) n = paddedDigits width (n / 10) ++ [(n % 10).digitChar] := by
  rcases Nat.lt_or_ge n 10 with small | large
  · obtain ⟨places, rfl⟩ : ∃ places, width = places + 1 := ⟨width - 1, by omega⟩
    rw [paddedDigits, paddedDigits, digits_of_lt small, Nat.div_eq_of_lt small,
      Nat.mod_eq_of_lt small, digits_of_lt (by decide)]
    simp [padLeft, List.replicate_succ']
  · rw [paddedDigits, digits_of_le large, padLeft_concat]
    rfl

theorem length_paddedDigits {width n : Nat} (wide : 0 < width) (fits : n < Nat.pow 10 width) :
    (paddedDigits width n).length = width := by
  rw [paddedDigits, length_padLeft]
  exact Nat.max_eq_left ((Nat.length_toDigits_le_iff (by decide) wide).2 fits)

theorem length_paddedDigits_pos (width n : Nat) : 0 < (paddedDigits width n).length := by
  rw [paddedDigits, length_padLeft]
  exact Nat.lt_of_lt_of_le Nat.length_toDigits_pos (Nat.le_max_right ..)

theorem length_digits_pos (n : Nat) : 0 < (digits n).length :=
  Nat.length_toDigits_pos

theorem isAsciiDigit_of_mem_digits {n : Nat} {c : Char} (member : c ∈ digits n) :
    Text.isAsciiDigit c = true := by
  have isDigit : c.isDigit = true := Nat.isDigit_of_mem_toDigits (by decide) (by decide) member
  simp only [Char.isDigit, Bool.and_eq_true, decide_eq_true_eq] at isDigit
  simp only [Text.isAsciiDigit, Bool.and_eq_true, decide_eq_true_eq]
  exact isDigit

/-- Whatever is padded to, only digits are written. -/
theorem isAsciiDigit_of_mem_paddedDigits {width n : Nat} {c : Char}
    (member : c ∈ paddedDigits width n) : Text.isAsciiDigit c = true := by
  rcases List.mem_append.1 member with zero | digit
  · rw [List.eq_of_mem_replicate zero]
    rfl
  · exact isAsciiDigit_of_mem_digits digit

/-! ## From digits to numbers -/

theorem ofDigits_eq_ofDigitChars (text : List Char) : ofDigits text = Nat.ofDigitChars 10 text 0 := by
  simp only [ofDigits, Nat.ofDigitChars_eq_foldl, Nat.mul_comm]

@[simp]
theorem ofDigits_digits (n : Nat) : ofDigits (digits n) = n := by
  rw [ofDigits_eq_ofDigitChars]
  exact Nat.ofDigitChars_toDigits (by decide) (by decide)

@[simp]
theorem ofDigits_paddedDigits (width n : Nat) : ofDigits (paddedDigits width n) = n := by
  rw [ofDigits_eq_ofDigitChars, paddedDigits, padLeft, Nat.ofDigitChars_append,
    Nat.ofDigitChars_replicate_zero, Nat.mul_zero, ← ofDigits_eq_ofDigitChars, ofDigits_digits]

theorem ofDigits_append (first second : List Char) :
    ofDigits (first ++ second) = ofDigits first * Nat.pow 10 second.length + ofDigits second := by
  simp only [ofDigits_eq_ofDigitChars, Nat.ofDigitChars_append]
  rw [Nat.ofDigitChars_eq_ofDigitChars_zero, Nat.mul_comm]
  rfl

theorem isAsciiDigit_iff {c : Char} :
    Text.isAsciiDigit c = true ↔ 48 ≤ c.toNat ∧ c.toNat ≤ 57 := by
  simp only [Text.isAsciiDigit, Bool.and_eq_true, decide_eq_true_eq, Char.le_def,
    UInt32.le_iff_toNat_le]
  rfl

theorem digitValue_lt {c : Char} (digit : Text.isAsciiDigit c = true) :
    c.toNat - '0'.toNat < 10 := by
  have bounds := isAsciiDigit_iff.1 digit
  have zero : '0'.toNat = 48 := rfl
  omega

theorem ofDigits_lt {text : List Char} (digits : ∀ c ∈ text, Text.isAsciiDigit c = true) :
    ofDigits text < Nat.pow 10 text.length := by
  induction text with
  | nil => decide
  | cons c rest ih =>
    have later := ih fun d member => digits d (List.mem_cons_of_mem _ member)
    have first := digitValue_lt (digits c List.mem_cons_self)
    have whole : ofDigits (c :: rest) =
        (c.toNat - '0'.toNat) * Nat.pow 10 rest.length + ofDigits rest := by
      rw [← List.singleton_append, ofDigits_append]
      simp [ofDigits]
    have power : Nat.pow 10 (c :: rest).length = 10 * Nat.pow 10 rest.length := by
      rw [List.length_cons, Nat.mul_comm]
      rfl
    have bound : (c.toNat - '0'.toNat) * Nat.pow 10 rest.length ≤ 9 * Nat.pow 10 rest.length :=
      Nat.mul_le_mul_right _ (by omega)
    omega

/-- Further digits never make a number smaller. -/
theorem le_foldl_digits (significand : Nat) (text : List Char) :
    significand ≤ text.foldl (fun n c => n * 10 + Text.digitValue c) significand := by
  induction text generalizing significand with
  | nil => exact Nat.le_refl _
  | cons c text ih =>
    have later := ih (significand * 10 + Text.digitValue c)
    rw [List.foldl_cons]
    omega

/-- Only the number zero is written with a zero at its start. -/
theorem digits_eq_zero_cons {n : Nat} {more : List Char} (text : digits n = '0' :: more) :
    more = [] := by
  have value : n = ofDigits more := by
    have read := ofDigits_digits n
    rw [text] at read
    exact read.symm
  have small := ofDigits_lt fun c (member : c ∈ more) =>
    isAsciiDigit_of_mem_digits (n := n) (text ▸ List.mem_cons_of_mem _ member)
  have length : (Nat.toDigits 10 n).length = more.length + 1 := by
    rw [← List.length_cons (a := '0'), ← text]
    rfl
  rcases Nat.eq_zero_or_pos more.length with none | some
  · exact List.eq_nil_of_length_eq_zero none
  · have short := (Nat.length_toDigits_le_iff (n := n) (by decide) some).2 (value ▸ small)
    omega

/-! ## The order of texts -/

/-- Of two texts that start with equally long parts, the parts decide unless they are the same. -/
theorem append_lt_append_iff {first second rest other : List Char}
    (long : first.length = second.length) :
    first ++ rest < second ++ other ↔ first < second ∨ first = second ∧ rest < other := by
  induction first generalizing second with
  | nil =>
    obtain rfl := List.length_eq_zero_iff.1 long.symm
    simp
  | cons a first ih =>
    cases second with
    | nil => cases long
    | cons b second =>
      simp only [List.cons_append, List.cons_lt_cons_iff, ih (Nat.succ.inj long), List.cons.injEq]
      by_cases same : a = b
      · subst same
        simp
      · simp [same]

theorem digitChar_lt_iff {m n : Nat} (first : m < 10) (second : n < 10) :
    m.digitChar < n.digitChar ↔ m < n := by
  rw [Char.lt_def, UInt32.lt_iff_toNat_lt]
  have left := Nat.toNat_digitChar_of_lt_ten first
  have right := Nat.toNat_digitChar_of_lt_ten second
  simp only [Char.toNat] at left right
  omega

theorem paddedDigits_inj {width m n : Nat} :
    paddedDigits width m = paddedDigits width n ↔ m = n := by
  constructor
  · intro same
    rw [← ofDigits_paddedDigits width m, same, ofDigits_paddedDigits]
  · rintro rfl
    rfl

/-- Numbers in the same number of places are ordered as their texts. -/
theorem paddedDigits_lt_iff {width m n : Nat} (wide : 0 < width) (first : m < Nat.pow 10 width)
    (second : n < Nat.pow 10 width) : paddedDigits width m < paddedDigits width n ↔ m < n := by
  obtain ⟨places, rfl⟩ : ∃ places, width = places + 1 := ⟨width - 1, by omega⟩
  induction places generalizing m n with
  | zero =>
    have first : m < 10 := first
    have second : n < 10 := second
    rw [paddedDigits_one first, paddedDigits_one second, List.cons_lt_cons_iff,
      digitChar_lt_iff first second]
    simp
  | succ places ih =>
    have wide : 0 < places + 1 := Nat.succ_pos places
    have power : Nat.pow 10 (places + 1 + 1) = Nat.pow 10 (places + 1) * 10 := rfl
    have first : m / 10 < Nat.pow 10 (places + 1) := by omega
    have second : n / 10 < Nat.pow 10 (places + 1) := by omega
    have long : (paddedDigits (places + 1) (m / 10)).length =
        (paddedDigits (places + 1) (n / 10)).length := by
      rw [length_paddedDigits wide first, length_paddedDigits wide second]
    rw [paddedDigits_succ wide, paddedDigits_succ wide, append_lt_append_iff long,
      ih wide first second, paddedDigits_inj, List.cons_lt_cons_iff,
      digitChar_lt_iff (Nat.mod_lt _ (by decide)) (Nat.mod_lt _ (by decide))]
    simp only [List.lt_irrefl, and_false, or_false]
    omega

/-- Of two texts that start with numbers in the same number of places, the numbers decide. -/
theorem paddedDigits_append_lt_iff {width m n : Nat} {rest other : List Char} (wide : 0 < width)
    (first : m < Nat.pow 10 width) (second : n < Nat.pow 10 width) :
    paddedDigits width m ++ rest < paddedDigits width n ++ other ↔
      m < n ∨ m = n ∧ rest < other := by
  have long : (paddedDigits width m).length = (paddedDigits width n).length := by
    rw [length_paddedDigits wide first, length_paddedDigits wide second]
  rw [append_lt_append_iff long, paddedDigits_lt_iff wide first second, paddedDigits_inj]

end Querent.Decimal
