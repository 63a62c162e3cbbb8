import Querent.Proofs.Decimal.Nearest
import Querent.Proofs.Table.ColumnKind

/-!
# Four fifths of the values

The share of the values that fit a kind is a rounded quotient, and the bound it is held against is not four
fifths but the floating-point number nearest to it.  For fewer than `2 ^ 50` values this makes no
difference: the quotient of two counts is either far enough from four fifths, or exactly four fifths and
rounded to the bound itself.
-/

namespace Querent.ColumnKind

open Float.Model Float.Model.UnpackedFloat Decimal

/-- The 53 digits of the bound, in front of place `-53`. -/
def thresholdDigits : Nat := 7205759403792794

theorem unpack_threshold :
    threshold.toModel.unpack = .finite .positive thresholdDigits (-53) (by decide) := rfl

/-- What the bound is held against is compared with what the bound stands for. -/
theorem threshold_le_iff {number : Float} {digits : Nat} {place : Int}
    (carries : Carries .positive digits place number.toModel.unpack) :
    threshold ≤ number ↔ (thresholdDigits : ℚ) * 2 ^ (-53 : Int) ≤ digits * 2 ^ place := by
  rcases carries.eq_finite with ⟨mantissa, exponent, positive, unpacked, leading, value⟩
  rw [le_iff_compare, unpacked, unpack_threshold,
    compare_leading (by decide) (by decide) leading positive, value]

variable {value : ℚ} {digits : Nat} {place : Int}

theorem power_lt_iff {first second : Int} : (2 : ℚ) ^ first < 2 ^ second ↔ first < second :=
  zpow_lt_zpow_iff_right₀ one_lt_two

/-- At four fifths and more, up to the whole, the digits are at least those of the bound. -/
theorem threshold_le_of_nearest (nearest : Nearest value digits place) (least : 4 / 5 ≤ value)
    (whole : value ≤ 1) : (thresholdDigits : ℚ) * 2 ^ (-53 : Int) ≤ digits * 2 ^ place := by
  have lower := nearest.least
  have upper := nearest.most
  have near := (abs_le.1 nearest.near).1
  have above : -54 < place := by
    rw [← power_lt_iff]
    norm_num
    linarith
  have below : place < -51 := by
    rw [← power_lt_iff]
    norm_num
    linarith
  obtain rfl | rfl : place = -53 ∨ place = -52 := by omega
  · norm_num at near
    have more : (7205759403792793 : ℚ) < digits := by linarith
    have reached : thresholdDigits ≤ digits := Nat.succ_le_of_lt (by exact_mod_cast more)
    exact mul_le_mul_of_nonneg_right (Nat.cast_le.2 reached) (zpow_pos two_pos _).le
  · norm_num at near lower ⊢
    rw [thresholdDigits]
    norm_num
    linarith

/-- Below four fifths by some distance the digits are less than those of the bound. -/
theorem lt_threshold_of_nearest (nearest : Nearest value digits place)
    (less : value + 1 / (5 * 2 ^ 53) < 4 / 5) :
    (digits : ℚ) * 2 ^ place < thresholdDigits * 2 ^ (-53 : Int) := by
  have lower := nearest.least
  have upper := nearest.most
  have near := (abs_le.1 nearest.near).2
  have unit : (0 : ℚ) < 2 ^ place := zpow_pos two_pos place
  have below : place < -52 := by
    rw [← power_lt_iff]
    norm_num
    linarith
  obtain rfl | lowest : place = -53 ∨ place ≤ -54 := by omega
  · norm_num at near less
    have fewer : (digits : ℚ) < (thresholdDigits : Nat) := by
      rw [thresholdDigits, Nat.cast_ofNat]
      linarith
    exact mul_lt_mul_of_pos_right fewer (zpow_pos two_pos _)
  · have small : (2 : ℚ) ^ place ≤ 2 ^ (-54 : Int) := zpow_le_zpow_right₀ one_le_two lowest
    have value : (digits : ℚ) * 2 ^ place ≤ value + 1 / 2 * 2 ^ place := by
      rw [sub_le_iff_le_add, ← add_comm, ← mul_le_mul_iff_left₀ unit, add_mul,
        div_mul_cancel₀ _ unit.ne'] at near
      exact near
    norm_num at small ⊢
    rw [thresholdDigits]
    norm_num
    linarith

variable {cells : List Json}

/-- For two counts the rounded quotient is held against four fifths as if it were not rounded. -/
theorem threshold_le_div_iff {m n : Nat} (le : m ≤ n) (some : 0 < n) (few : n < 2 ^ 53) :
    threshold ≤ Float.ofNat m / Float.ofNat n ↔ 4 * n ≤ 5 * m := by
  have count : (0 : ℚ) < n := Nat.cast_pos.2 some
  rcases Nat.eq_zero_or_pos m with rfl | positive
  · have none : ¬threshold ≤ Float.ofNat 0 / Float.ofNat n := by
      rw [le_iff_compare, unpack_zero_div some few]
      decide
    simp only [none, false_iff]
    omega
  · rcases nearest_div positive (le.trans_lt few) some few with ⟨digits, place, nearest, carries⟩
    rw [threshold_le_iff carries]
    constructor
    · intro reached
      by_contra less
      have more : (5 : ℚ) * m + 1 ≤ 4 * n := by exact_mod_cast Nat.lt_of_not_le less
      have few : (n : ℚ) < 2 ^ 53 := by exact_mod_cast few
      have apart : 1 / (5 * 2 ^ 53) < 1 / (5 * (n : ℚ)) :=
        one_div_lt_one_div_of_lt (by positivity) (by linarith)
      have gap : (m : ℚ) / n + 1 / (5 * n) ≤ 4 / 5 := by
        rw [div_add_div _ _ count.ne' (by positivity), div_le_div_iff₀ (by positivity) (by norm_num)]
        nlinarith
      exact absurd reached (not_le.2 (lt_threshold_of_nearest nearest (by linarith)))
    · intro least
      refine threshold_le_of_nearest nearest ?_ ?_
      · rw [div_le_div_iff₀ (by norm_num) count]
        exact_mod_cast (by omega)
      · rw [div_le_one count]
        exact_mod_cast le

/-- Cells fit a kind if at least four fifths of them fit it, counted in whole numbers. -/
theorem mostly_iff (fits : Json → Bool) (some : 0 < cells.length) (few : cells.length < 2 ^ 53) :
    mostly fits cells = true ↔ 4 * cells.length ≤ 5 * cells.countP fits := by
  rw [mostly, decide_eq_true_iff]
  exact threshold_le_div_iff List.countP_le_length some few

/-- The kinds whose share is checked, in the order in which they are, each with what fits it. -/
def checks : List (ColumnKind × (Json → Bool)) :=
  [(numeric, isNumber), (date, isDate), (boolean, isTruthValue)]

/-- The first kind that is reached by a share of the cells, or categories if none is. -/
theorem ofValues_eq_first (some : cells ≠ []) :
    ofValues cells =
      ((checks.find? fun check => mostly check.2 cells).map Prod.fst).getD categorical := by
  rw [ofValues, if_neg (by rwa [List.isEmpty_iff])]
  simp only [checks, List.find?_cons, List.find?_nil]
  cases mostly isNumber cells with
  | true => rfl
  | false =>
    cases mostly isDate cells with
    | true => rfl
    | false => cases mostly isTruthValue cells <;> rfl

/--
A column with some values, but fewer than `2 ^ 53`, is of the first kind that at least four fifths of them
fit, and holds categories if there is no such kind.  Nothing is lost in the quotient or in the bound it is
held against: four fifths are enough, and one value less is not.  If all values are numbers, the column is
numeric.
-/
theorem infer_by_four_fifths {rows : List Row} {column : String}
    (some : 0 < (Table.values rows column).length)
    (few : (Table.values rows column).length < 2 ^ 53) :
    (∀ fits, mostly fits (Table.values rows column) = true ↔
      4 * (Table.values rows column).length ≤ 5 * (Table.values rows column).countP fits) ∧
    infer rows column =
      ((checks.find? fun check => decide (4 * (Table.values rows column).length ≤
        5 * (Table.values rows column).countP check.2)).map Prod.fst).getD categorical ∧
    (Table.isNumeric rows column = true → infer rows column = numeric) := by
  have share (fits) := mostly_iff fits some few
  have first : infer rows column =
      ((checks.find? fun check => decide (4 * (Table.values rows column).length ≤
        5 * (Table.values rows column).countP check.2)).map Prod.fst).getD categorical := by
    rw [infer, ofValues_eq_first (List.length_pos_iff.1 some)]
    congr 3
    funext check
    rw [Bool.eq_iff_iff, decide_eq_true_iff]
    exact share check.2
  refine ⟨share, first, ?_⟩
  intro numbers
  rw [Table.isNumeric, Bool.and_eq_true, List.all_eq_true] at numbers
  have all : (Table.values rows column).countP isNumber = (Table.values rows column).length :=
    List.countP_eq_length.2 numbers.2
  rw [first, checks, List.find?_cons_of_pos (by simp only [all, decide_eq_true_iff]; omega)]
  rfl

/-- Four readings of five are numbers. -/
theorem infer_by_four_fifths_readings :
    infer [[("reading", .integer 1)], [("reading", .integer 2)], [("reading", .string "n/a")],
      [("reading", .string "3.5")], [("reading", .integer 5)]] "reading" = numeric := by
  exact (infer_by_four_fifths (by decide) (by decide)).2.1

end Querent.ColumnKind
