import Querent.Proofs.Decimal.Digits
import Querent.Service.Body

/-!
# Limits

A limit is given in the query of a target, by its name and its decimal digits.  Every number that fits
into a machine word is understood as it is meant.
-/

namespace Querent

namespace Decimal

theorem readDigits_of_le {limit n : Nat} {excess : WholeError} {text : List Char}
    (all : ∀ c ∈ text, Text.isAsciiDigit c = true)
    (fits : text.foldl (fun n c => n * 10 + Text.digitValue c) n ≤ limit) :
    readDigits limit excess n text =
      .ok (text.foldl (fun n c => n * 10 + Text.digitValue c) n) := by
  induction text generalizing n with
  | nil => rfl
  | cons c rest ih =>
      have digit := all c List.mem_cons_self
      have small : n * 10 + Text.digitValue c ≤ limit :=
        Nat.le_trans (le_foldl_digits _ rest) fits
      rw [readDigits, if_neg (by simp [digit]), if_neg (Nat.not_lt.2 small)]
      exact ih (fun d member => all d (List.mem_cons_of_mem _ member)) fits

/-- A number that fits into a machine word is read from its digits. -/
theorem readNatural_digits {n : Nat} (fits : n < Nat.pow 2 64) :
    readNatural (String.ofList (digits n)) = .ok n := by
  have value : (digits n).foldl (fun n c => n * 10 + Text.digitValue c) 0 = n := ofDigits_digits n
  have all : ∀ c ∈ digits n, Text.isAsciiDigit c = true := fun _ member =>
    isAsciiDigit_of_mem_digits member
  have magnitude : readMagnitude (Nat.pow 2 64 - 1) .tooLarge (digits n) = .ok n := by
    have some : (digits n).isEmpty = false :=
      List.isEmpty_eq_false_iff.2 (List.ne_nil_of_length_pos (length_digits_pos n))
    rw [readMagnitude, some, if_neg Bool.false_ne_true, readDigits_of_le all, value]
    rw [value]
    exact Nat.le_sub_one_of_lt fits
  unfold readNatural
  rw [String.toList_ofList]
  split
  next none => exact absurd (length_digits_pos n) (by simp [none])
  next rest signed => exact absurd (all '+' (signed ▸ List.mem_cons_self)) (by decide)
  next => exact magnitude

end Decimal

namespace Http

/-- Letters, digits and all else but the two signs with a meaning of their own stand for themselves. -/
theorem decoded_of_plain {text : List Char} (plain : ∀ c ∈ text, c ≠ '%' ∧ c ≠ '+') :
    decoded text = text := by
  induction text with
  | nil => rfl
  | cons c rest ih =>
      obtain ⟨⟨notPercent, notPlus⟩, later⟩ := List.forall_mem_cons.1 plain
      rw [decoded.eq_def]
      split
      next same => exact absurd (List.cons.inj same).1 notPercent
      next same => exact absurd (List.cons.inj same).1 notPlus
      next same =>
        obtain ⟨rfl, rfl⟩ := List.cons.inj same
        rw [ih later]
      next none => cases none

end Http

namespace Service

/-- The query of a target that gives a limit. -/
def limitQuery (n : Nat) : String :=
  "limit=" ++ String.ofList (Decimal.digits n)

theorem queryPairs_limitQuery (n : Nat) :
    Http.queryPairs (limitQuery n) = [("limit", String.ofList (Decimal.digits n))] := by
  have all (c : Char) (member : c ∈ Decimal.digits n) : Text.isAsciiDigit c = true :=
    Decimal.isAsciiDigit_of_mem_digits member
  have other {c : Char} (sign : Text.isAsciiDigit c = false) : c ∉ Decimal.digits n := fun member => by
    rw [all c member] at sign
    cases sign
  have written : (limitQuery n).toList = "limit".toList ++ '=' :: Decimal.digits n := by
    simp [limitQuery]
  have whole : '&' ∉ "limit".toList ++ '=' :: Decimal.digits n := by
    simpa using other (c := '&') rfl
  have split : Http.splitPair ("limit".toList ++ '=' :: Decimal.digits n) =
      ("limit", String.ofList (Decimal.digits n)) := by
    have plain (c : Char) (member : c ∈ Decimal.digits n) : c ≠ '%' ∧ c ≠ '+' :=
      ⟨fun same => other (c := '%') rfl (same ▸ member),
        fun same => other (c := '+') rfl (same ▸ member)⟩
    have value : Http.decoded (Decimal.digits n) = Decimal.digits n := Http.decoded_of_plain plain
    exact congrArg (fun text => ("limit", String.ofList text)) value
  rw [Http.queryPairs, written, List.splitOn_eq_singleton whole, List.filter_cons_of_pos rfl,
    List.filter_nil, List.map_singleton, split]

/-- A limit that fits into a machine word is understood as it is meant. -/
theorem decodeLimit_limitQuery {n : Nat} (fits : n < Nat.pow 2 64) :
    decodeLimit (limitQuery n) = .ok (some n) := by
  have given : ((Http.queryPairs (limitQuery n)).filter (·.1 == "limit")).map Prod.snd =
      [String.ofList (Decimal.digits n)] := by
    rw [queryPairs_limitQuery]
    rfl
  rw [decodeLimit, given]
  simp only [Decimal.readNatural_digits fits]

end Service

end Querent
