import Querent.Proofs.Decimal.Fixed
import Querent.Proofs.Table.Amount

/-!
# Amounts in groups of three

The size of a finite number is rounded to some decimals, and all its digits are shown: those before the
point in groups of three with commas between them, and those behind it as they are, or without the zeros
at the end.  What is added are the commas, the mark of a currency, and a sign if the number is negative and
something other than zeros is left of it.

The commas are put in from the left, but a group ends where the number of digits that follow is a multiple
of three.  So the first group has as many digits as are left over, and the induction on the digits carries
how many that are.
-/

namespace Querent.Amount

open Decimal Text

/-! ## Groups of digits -/

/--
Whether a text is the given digits with commas between groups of three, of which only the first may be
shorter.
-/
structure Grouped (digits text : List Char) : Prop where
  groups : ∃ first rest, text.splitOn ',' = first :: rest ∧ first ++ rest.flatten = digits ∧
    1 ≤ first.length ∧ first.length ≤ 3 ∧ ∀ group ∈ rest, group.length = 3
  leading : text.head? ≠ some ','
  trailing : text.getLast? ≠ some ','
  doubled : ¬ [',', ','] <:+: text

/-- A digit with others behind it has a comma next to it if their number is a multiple of three. -/
theorem thousands_cons {digit : Char} {later : List Char} (more : later ≠ []) :
    thousands (digit :: later) =
      if later.length % 3 = 0 then digit :: ',' :: thousands later
      else digit :: thousands later := by
  rw [thousands, List.isEmpty_eq_false_iff.2 more, Bool.not_false, Bool.and_true]
  simp only [beq_iff_eq]

/-- The first group has the digits that are left over when the others have three each. -/
theorem exists_groups_thousands {digits : List Char} (some : digits ≠ []) (plain : ',' ∉ digits) :
    ∃ first rest, (thousands digits).splitOn ',' = first :: rest ∧ first ++ rest.flatten = digits ∧
      first.length = (digits.length - 1) % 3 + 1 ∧ ∀ group ∈ rest, group.length = 3 := by
  induction digits with
  | nil => exact absurd rfl some
  | cons digit later ih =>
    have other : digit ≠ ',' := fun comma => plain (comma ▸ List.mem_cons_self)
    have plainLater : ',' ∉ later := fun member => plain (List.mem_cons_of_mem _ member)
    have single : ',' ∉ [digit] := fun member => other (List.mem_singleton.1 member).symm
    rcases eq_or_ne later [] with rfl | more
    · refine ⟨[digit], [], ?_, rfl, rfl, ?_⟩
      · exact List.splitOn_eq_singleton single
      · exact fun group member => absurd member List.not_mem_nil
    · have positive := List.length_pos_iff.2 more
      rcases ih more plainLater with ⟨first, rest, split, flatten, length, three⟩
      rw [thousands_cons more, List.length_cons, Nat.add_sub_cancel]
      split
      next ends =>
        -- The digits behind the comma are groups of three, so the first of them is one, too.
        refine ⟨[digit], first :: rest, ?_, ?_, ?_, ?_⟩
        · rw [← split]
          exact List.splitOn_append_cons_self_of_not_mem single _
        · rw [List.flatten_cons, flatten]
          rfl
        · rw [ends]
          rfl
        · rw [List.forall_mem_cons]
          exact ⟨by omega, three⟩
      next inside =>
        refine ⟨digit :: first, rest, ?_, ?_, ?_, three⟩
        · rw [List.splitOn_cons_eq_if_modifyHead, if_neg (mt beq_iff_eq.1 other), split]
          rfl
        · rw [List.cons_append, flatten]
        · rw [List.length_cons]
          omega

/-- Next to a comma at the start there is an empty group. -/
theorem nil_mem_splitOn_comma (text : List Char) : [] ∈ (',' :: text).splitOn ',' := by
  have split := List.splitOn_append_cons_self (a := ',') [] text
  rw [List.nil_append] at split
  rw [split]
  exact List.mem_append_left _ List.mem_cons_self

/-- Between two commas, and before or after one, stands a digit. -/
theorem grouped_of_groups {digits text first : List Char} {rest : List (List Char)}
    (split : text.splitOn ',' = first :: rest) (flatten : first ++ rest.flatten = digits)
    (least : 1 ≤ first.length) (most : first.length ≤ 3)
    (three : ∀ group ∈ rest, group.length = 3) : Grouped digits text := by
  have none : [] ∉ text.splitOn ',' := by
    rw [split, List.mem_cons]
    rintro (empty | member)
    · rw [← empty] at least
      cases least
    · cases three [] member
  constructor
  case groups => exact ⟨first, rest, split, flatten, least, most, three⟩
  case leading =>
    intro comma
    rcases List.head?_eq_some_iff.1 comma with ⟨after, rfl⟩
    exact none (nil_mem_splitOn_comma after)
  case trailing =>
    intro comma
    rcases List.getLast?_eq_some_iff.1 comma with ⟨before, rfl⟩
    apply none
    rw [List.splitOn_append_cons_self]
    exact List.mem_append_right _ List.mem_cons_self
  case doubled =>
    rintro ⟨before, after, rfl⟩
    apply none
    rw [List.append_assoc, List.cons_append, List.splitOn_append_cons_self]
    exact List.mem_append_right _ (nil_mem_splitOn_comma after)

/-- Digits are put into groups, however many they are. -/
theorem grouped_thousands {digits : List Char} (some : digits ≠ []) (plain : ',' ∉ digits) :
    Grouped digits (thousands digits) := by
  rcases exists_groups_thousands some plain with ⟨first, rest, split, flatten, length, three⟩
  exact grouped_of_groups split flatten (by omega) (by omega) three

theorem mem_thousands_of_mem {digits : List Char} {c : Char} (member : c ∈ digits) :
    c ∈ thousands digits := by
  induction digits with
  | nil => cases member
  | cons digit later ih =>
    rw [thousands]
    rcases List.mem_cons.1 member with rfl | member
    · split <;> exact List.mem_cons_self
    · split
      next => exact List.mem_cons_of_mem _ (List.mem_cons_of_mem _ (ih member))
      next => exact List.mem_cons_of_mem _ (ih member)

/-! ## Zeros at the end -/

/-- Whether a text is left of another one when the zeros at its end are taken off. -/
structure Trimmed (digits kept : List Char) : Prop where
  zeros : ∃ count, digits = kept ++ List.replicate count '0'
  last : kept.getLast? ≠ some '0'

theorem trimmed_withoutTrailingZeros (digits : List Char) :
    Trimmed digits (withoutTrailingZeros digits) := by
  unfold withoutTrailingZeros
  constructor
  case zeros =>
    have zeros : ∀ c ∈ digits.reverse.takeWhile (· == '0'), c = '0' := by
      intro c member
      exact beq_iff_eq.1 (List.mem_takeWhile_imp (p := fun c => c == '0') member)
    have filled := List.eq_replicate_iff.2 ⟨rfl, zeros⟩
    refine ⟨(digits.reverse.takeWhile (· == '0')).length, ?_⟩
    rw [← List.reverse_replicate, ← filled, ← List.reverse_append,
      List.takeWhile_append_dropWhile, List.reverse_reverse]
  case last =>
    rw [List.getLast?_reverse]
    intro zero
    have other := List.head?_dropWhile_not (· == '0') digits.reverse
    rw [zero] at other
    cases other

theorem Trimmed.subset {digits kept : List Char} (trimmed : Trimmed digits kept) :
    kept ⊆ digits := by
  rcases trimmed.zeros with ⟨count, rfl⟩
  exact List.subset_append_left ..

/-- All digits that are not zero are kept. -/
theorem Trimmed.mem_of_ne {digits kept : List Char} (trimmed : Trimmed digits kept) {c : Char}
    (other : c ≠ '0') (member : c ∈ digits) : c ∈ kept := by
  rcases trimmed.zeros with ⟨count, rfl⟩
  rcases List.mem_append.1 member with kept | zero
  · exact kept
  · exact absurd (List.eq_of_mem_replicate zero) other

/-! ## The sign -/

/-- Whether a text has a digit other than zero. -/
def HasNonzeroDigit (text : List Char) : Prop :=
  ∃ c ∈ text, isAsciiDigit c = true ∧ c ≠ '0'

variable {x : Float} {whole fraction kept mark : List Char} {c : Char}

theorem ne_of_isDigit (digit : isAsciiDigit c = true) {sign : Char}
    (other : isAsciiDigit sign = false) : c ≠ sign := by
  rintro rfl
  rw [digit] at other
  cases other

theorem notMem_of_isDigit {text : List Char} (digits : ∀ c ∈ text, isAsciiDigit c = true)
    (other : isAsciiDigit c = false) : c ∉ text :=
  fun member => ne_of_isDigit (digits c member) other rfl

theorem mem_joinPoint_iff (other : c ≠ '.') :
    c ∈ joinPoint whole fraction ↔ c ∈ whole ∨ c ∈ fraction := by
  unfold joinPoint
  split
  next none =>
    rw [List.isEmpty_iff.1 none]
    simp
  next => simp [other]

/-- Of digits with a point among them, one is not zero unless all that is shown is zero. -/
theorem isZero_eq_false_iff (digits : ∀ c ∈ whole ++ fraction, isAsciiDigit c = true) :
    isZero (joinPoint whole fraction) = false ↔ HasNonzeroDigit (joinPoint whole fraction) := by
  rw [isZero, List.all_eq_false]
  apply exists_congr
  intro c
  apply and_congr_right
  intro member
  rw [Bool.or_eq_true, beq_iff_eq, beq_iff_eq, not_or]
  constructor
  · rintro ⟨nonzero, noPoint⟩
    exact ⟨digits c (List.mem_append.2 ((mem_joinPoint_iff noPoint).1 member)), nonzero⟩
  · rintro ⟨digit, nonzero⟩
    exact ⟨nonzero, ne_of_isDigit digit rfl⟩

/-- A sign stands before a negative number of which something is left. -/
theorem mem_sign_iff (digits : ∀ c ∈ whole ++ fraction, isAsciiDigit c = true) :
    '-' ∈ (sign x (joinPoint whole fraction)).toList ↔
      x < 0 ∧ HasNonzeroDigit (joinPoint whole fraction) := by
  rw [← isZero_eq_false_iff digits]
  unfold sign
  split
  next shown =>
    rw [Bool.and_eq_true, decide_eq_true_iff, Bool.not_eq_true'] at shown
    exact iff_of_true List.mem_cons_self shown
  next hidden =>
    rw [Bool.and_eq_true, decide_eq_true_iff, Bool.not_eq_true'] at hidden
    exact iff_of_false List.not_mem_nil hidden

/-! ## Amounts -/

/-- Whether a character is neither a comma nor part of a mark. -/
def isBare (mark : List Char) (c : Char) : Bool :=
  c != ',' && !mark.contains c

/--
How a text presents a number whose size has the given digits, with the digits that are shown behind the
point: commas and the mark aside, nothing is added but a sign.
-/
structure Presents (x : Float) (mark whole fraction shown text : List Char) : Prop where
  arranged : ∃ sign integer, (sign = "" ∨ sign = "-") ∧
    text = sign.toList ++ mark ++ joinPoint integer shown ∧ Grouped whole integer ∧
    text.filter (isBare mark) = sign.toList ++ joinPoint whole shown
  minus : '-' ∈ text ↔ x < 0 ∧ HasNonzeroDigit (joinPoint whole fraction)
  nonzero : '-' ∈ text → HasNonzeroDigit text
  comma_notMem : ',' ∉ shown

theorem splitPoint_joinPoint (noPoint : '.' ∉ whole) :
    splitPoint (joinPoint whole fraction) = (whole, fraction) := by
  have before : ∀ c ∈ whole, (c != '.') = true := fun c member =>
    bne_iff_ne.2 (ne_of_mem_of_not_mem member noPoint)
  unfold splitPoint joinPoint
  split
  next none =>
    rw [List.takeWhile_eq_self_iff.2 before, List.dropWhile_eq_nil_iff.2 before,
      List.isEmpty_iff.1 none]
    rfl
  next =>
    rw [List.takeWhile_append_of_pos before, List.dropWhile_append_of_pos before]
    simp

/-- Whatever passes and whatever does not, the point is kept between what is left of the digits. -/
theorem filter_joinPoint {passes : Char → Bool} (point : passes '.' = true)
    (after : ∀ c ∈ fraction, passes c = true) :
    (joinPoint whole fraction).filter passes = joinPoint (whole.filter passes) fraction := by
  unfold joinPoint
  split
  next => rfl
  next =>
    rw [List.filter_append, List.filter_cons_of_pos point, List.filter_eq_self.2 after]

theorem isBare_of_mem (member : c ∈ mark) : isBare mark c = false := by
  rw [isBare, List.contains_iff_mem.2 member, Bool.not_true, Bool.and_false]

theorem isBare_of_ne (marked : mark ⊆ ['$']) (noComma : c ≠ ',') (noMark : c ≠ '$') :
    isBare mark c = true := by
  have absent : c ∉ mark := fun member => noMark (List.mem_singleton.1 (marked member))
  rw [isBare, Bool.and_eq_true, bne_iff_ne, Bool.not_eq_true', ← Bool.not_eq_true,
    List.contains_iff_mem]
  exact ⟨noComma, absent⟩

theorem isBare_of_isDigit (marked : mark ⊆ ['$']) (digit : isAsciiDigit c = true) :
    isBare mark c = true :=
  isBare_of_ne marked (ne_of_isDigit digit rfl) (ne_of_isDigit digit rfl)

/-- Commas and the mark aside, the sign and the digits are left. -/
theorem filter_isBare (marked : mark ⊆ ['$']) (sign : String)
    (whether : sign = "" ∨ sign = "-") (digitsWhole : ∀ c ∈ whole, isAsciiDigit c = true)
    (digitsKept : ∀ c ∈ kept, isAsciiDigit c = true) :
    (sign.toList ++ mark ++ joinPoint (thousands whole) kept).filter (isBare mark) =
      sign.toList ++ joinPoint whole kept := by
  have bareSign : sign.toList.filter (isBare mark) = sign.toList := by
    apply List.filter_eq_self.2
    rcases whether with rfl | rfl
    · exact fun c member => absurd member List.not_mem_nil
    · intro c member
      rw [List.mem_singleton.1 member]
      exact isBare_of_ne marked (by decide) (by decide)
  have noMark : mark.filter (isBare mark) = [] := by
    apply List.filter_eq_nil_iff.2
    intro c member
    rw [isBare_of_mem member]
    exact Bool.false_ne_true
  rw [List.filter_append, List.filter_append, bareSign, noMark, List.append_nil,
    filter_joinPoint (isBare_of_ne marked (by decide) (by decide))
      (fun c member => isBare_of_isDigit marked (digitsKept c member)),
    filter_thousands rfl (fun c member => isBare_of_isDigit marked (digitsWhole c member))]

/-- Neither the digits nor what is put among them is a sign. -/
theorem minus_notMem (marked : mark ⊆ ['$']) (digitsWhole : ∀ c ∈ whole, isAsciiDigit c = true)
    (digitsKept : ∀ c ∈ kept, isAsciiDigit c = true) :
    '-' ∉ mark ++ joinPoint (thousands whole) kept := by
  rw [List.mem_append, mem_joinPoint_iff (by decide)]
  rintro (inMark | inWhole | inKept)
  · cases List.mem_singleton.1 (marked inMark)
  · rcases mem_of_mem_thousands inWhole with comma | digit
    · cases comma
    · exact notMem_of_isDigit digitsWhole rfl digit
  · exact notMem_of_isDigit digitsKept rfl inKept

/-- A digit that is not zero is shown. -/
theorem HasNonzeroDigit.shown (some : HasNonzeroDigit (joinPoint whole fraction))
    (nonzero : ∀ c ∈ fraction, c ≠ '0' → c ∈ kept) :
    HasNonzeroDigit (joinPoint (thousands whole) kept) := by
  rcases some with ⟨c, member, digit, other⟩
  have noPoint : c ≠ '.' := ne_of_isDigit digit rfl
  refine ⟨c, (mem_joinPoint_iff noPoint).2 ?_, digit, other⟩
  rcases (mem_joinPoint_iff noPoint).1 member with inWhole | inFraction
  · exact .inl (mem_thousands_of_mem inWhole)
  · exact .inr (nonzero c inFraction other)

theorem HasNonzeroDigit.append_left {text : List Char} (some : HasNonzeroDigit text)
    (before : List Char) : HasNonzeroDigit (before ++ text) := by
  rcases some with ⟨c, member, digit⟩
  exact ⟨c, List.mem_append_right _ member, digit⟩

/-- Digits are shown in groups, with the zeros at the end or without them. -/
theorem presents {value : ℚ} {places : Nat} (written : WrittenAs value places whole fraction)
    (within : kept ⊆ fraction) (nonzero : ∀ c ∈ fraction, c ≠ '0' → c ∈ kept)
    (marked : mark ⊆ ['$']) :
    Presents x mark whole fraction kept
      ((sign x (joinPoint whole fraction)).toList ++ mark ++ joinPoint (thousands whole) kept) := by
  have digitsWhole := written.isDigit_whole
  have digitsKept : ∀ c ∈ kept, isAsciiDigit c = true := fun c member =>
    written.isDigit c (List.mem_append_right _ (within member))
  have minus : '-' ∈ (sign x (joinPoint whole fraction)).toList ++ mark ++
      joinPoint (thousands whole) kept ↔ x < 0 ∧ HasNonzeroDigit (joinPoint whole fraction) := by
    rw [← mem_sign_iff written.isDigit, List.append_assoc, List.mem_append]
    exact or_iff_left (minus_notMem marked digitsWhole digitsKept)
  constructor
  case arranged =>
    have signs := sign_eq x (joinPoint whole fraction)
    exact ⟨_, thousands whole, signs, rfl,
      grouped_thousands written.whole_ne_nil (notMem_of_isDigit digitsWhole rfl),
      filter_isBare marked _ signs digitsWhole digitsKept⟩
  case minus => exact minus
  case nonzero =>
    intro shown
    exact ((minus.1 shown).2.shown nonzero).append_left _
  case comma_notMem => exact notMem_of_isDigit digitsKept rfl

/-- The size of a finite number is cut at the point into the digits with which it is written. -/
theorem exists_magnitude_eq (finite : x.isFinite = true) (places : Nat) :
    ∃ whole fraction, WrittenAs (absoluteValue x) places whole fraction ∧
      magnitude places x = joinPoint whole fraction ∧
      splitPoint (joinPoint whole fraction) = (whole, fraction) := by
  rcases exists_writtenAs finite places with ⟨whole, fraction, written, text⟩
  refine ⟨whole, fraction, written, text, ?_⟩
  exact splitPoint_joinPoint (notMem_of_isDigit written.isDigit_whole rfl)

/--
The size of a finite number is rounded to the nearest decimal with as many places as asked for, and all
its digits are shown as an amount of dollars.  Plainly shown, a number has three decimals less the zeros at
the end.  The whole part is in groups of three, and a minus stands before a negative number unless nothing
but zeros is left of it.
-/
theorem shown_as_rounded (finite : x.isFinite = true) (places : Nat) :
    (∃ whole fraction, WrittenAs (absoluteValue x) places whole fraction ∧
      (fixedText places x.abs).toList = joinPoint whole fraction ∧
      Presents x ['$'] whole fraction fraction (dollars places x).toList) ∧
    ∃ whole fraction shown, WrittenAs (absoluteValue x) 3 whole fraction ∧
      (fixedText 3 x.abs).toList = joinPoint whole fraction ∧ Trimmed fraction shown ∧
      Presents x [] whole fraction shown (plain x).toList := by
  constructor
  · rcases exists_magnitude_eq finite places with ⟨whole, fraction, written, rounded, split⟩
    have text : (dollars places x).toList = (sign x (joinPoint whole fraction)).toList ++ ['$'] ++
        joinPoint (thousands whole) fraction := by
      simp only [dollars, rounded, split, String.toList_append, String.toList_ofList]
      rfl
    refine ⟨whole, fraction, written, rounded, ?_⟩
    rw [text]
    exact presents written (List.Subset.refl _) (fun c member _ => member) (List.Subset.refl _)
  · rcases exists_magnitude_eq finite 3 with ⟨whole, fraction, written, rounded, split⟩
    have text : (plain x).toList = (sign x (joinPoint whole fraction)).toList ++ [] ++
        joinPoint (thousands whole) (withoutTrailingZeros fraction) := by
      simp only [plain, rounded, split, String.toList_append, String.toList_ofList,
        List.append_nil]
    have trimmed := trimmed_withoutTrailingZeros fraction
    refine ⟨whole, fraction, _, written, rounded, trimmed, ?_⟩
    rw [text]
    exact presents written trimmed.subset (fun c member other => trimmed.mem_of_ne other member)
      (List.nil_subset _)

/-- A debt with one decimal, in dollars and plainly. -/
theorem shown_as_rounded_debt :
    (-1234567.5 : Float).isFinite = true ∧
    (∃ whole fraction, WrittenAs (absoluteValue (-1234567.5)) 2 whole fraction ∧
      (fixedText 2 (-1234567.5 : Float).abs).toList = joinPoint whole fraction ∧
      Presents (-1234567.5) ['$'] whole fraction fraction "-$1,234,567.50".toList) ∧
    ∃ whole fraction shown, WrittenAs (absoluteValue (-1234567.5)) 3 whole fraction ∧
      (fixedText 3 (-1234567.5 : Float).abs).toList = joinPoint whole fraction ∧
      Trimmed fraction shown ∧
      Presents (-1234567.5) [] whole fraction shown "-1,234,567.5".toList := by
  have finite : (-1234567.5 : Float).isFinite = true := by decide
  have inDollars : dollars 2 (-1234567.5) = "-$1,234,567.50" := by decide
  have plainly : plain (-1234567.5) = "-1,234,567.5" := by decide
  have shown := shown_as_rounded finite 2
  rw [inDollars, plainly] at shown
  exact ⟨finite, shown⟩

end Querent.Amount
