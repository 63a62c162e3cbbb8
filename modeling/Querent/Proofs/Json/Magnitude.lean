import Querent.Json.Reader

/-!
# The size of numbers

A whole number that is read from a text has at most 64 bits: a longer one, and any number with
decimals or a power of ten, becomes a floating-point number.  So no whole number above 64 bits stands
anywhere in a document that is read, whatever its text.
-/

namespace Querent.Json

/-! ## One number -/

/-- Whether a document is no whole number above 64 bits. -/
def FitsWord : Json → Prop
  | .integer value => value ≤ largestWord
  | _ => True

theorem takeDigits_le {significand : Nat} (small : significand ≤ largestWord) (text : List Char) :
    (takeDigits significand text).1 ≤ largestWord := by
  induction text generalizing significand with
  | nil => exact small
  | cons c text ih =>
    rw [takeDigits]
    split
    next fits => exact ih (of_decide_eq_true (Bool.and_eq_true_iff.1 fits).2)
    next => exact small

/-- Whether what a rule reads is no whole number above 64 bits. -/
def ReadsWord : Read Json → Prop
  | .ok (value, _) => value.FitsWord
  | .error _ => True

theorem readsWord_floatOfParts (negative : Bool) (significand : Nat) (exponent : Int)
    (cursor : Cursor) : ReadsWord (floatOfParts negative significand exponent cursor) := by
  unfold floatOfParts
  split
  next => trivial
  next => trivial

theorem readsWord_readPower (negative : Bool) (significand : Nat) (exponent : Int)
    (cursor : Cursor) : ReadsWord (readPower negative significand exponent cursor) := by
  unfold readPower
  split
  split
  next => trivial
  next =>
    split
    next =>
      simp only
      split
      next =>
        split
        next => trivial
        next => trivial
      next => exact readsWord_floatOfParts ..
    next => trivial

theorem readsWord_readTail (negative : Bool) (significand : Nat) (exponent : Int)
    (cursor : Cursor) : ReadsWord (readTail negative significand exponent cursor) := by
  unfold readTail
  split
  next => exact readsWord_readPower ..
  next => exact readsWord_readPower ..
  next => exact readsWord_floatOfParts ..

theorem readsWord_readFraction (negative : Bool) (significand : Nat) (exponent : Int)
    (cursor : Cursor) : ReadsWord (readFraction negative significand exponent cursor) := by
  unfold readFraction
  simp only
  split
  next =>
    split
    next => trivial
    next => trivial
  next => exact readsWord_readTail ..

theorem fitsWord_wholeNumber (negative : Bool) {significand : Nat}
    (small : significand ≤ largestWord) : (wholeNumber negative significand).FitsWord := by
  unfold wholeNumber
  split
  next => exact Int.ofNat_le.2 small
  next =>
    split
    next => trivial
    next =>
      unfold FitsWord
      simp only
      omega

/-- A number without decimals is whole unless some of its digits were left out. -/
theorem readsWord_whole (negative : Bool) {significand : Nat} (small : significand ≤ largestWord)
    (dropped : Int) (cursor : Cursor) :
    ReadsWord (if dropped == 0 then .ok (wholeNumber negative significand, cursor)
      else floatOfParts negative significand dropped cursor) := by
  split
  next => exact fitsWord_wholeNumber negative small
  next => exact readsWord_floatOfParts ..

theorem readsWord_readNumber (negative : Bool) (cursor : Cursor) :
    ReadsWord (readNumber negative cursor) := by
  unfold readNumber
  split
  next => trivial
  next =>
    split
    next => trivial
    next c _ _ _ =>
      simp only
      generalize (if c == '0' then 1 else countDigits cursor.rest) = all
      have small := takeDigits_le (Nat.zero_le largestWord) (cursor.rest.take all)
      split
      next => exact readsWord_readFraction ..
      next => exact readsWord_readTail ..
      next => exact readsWord_readTail ..
      next =>
        split
        next => trivial
        next => exact readsWord_whole negative small ..
      next => exact readsWord_whole negative small ..

/-! ## A whole document -/

mutual

/-- Whether no whole number above 64 bits stands in a document as it is met. -/
def Node.FitsWord : Node → Prop
  | .leaf value _ => value.FitsWord
  | .array _ items => items.FitWords
  | .object _ entries => entries.FitWords
  | .broken _ _ => True

/-- Whether no whole number above 64 bits stands in the items of a list. -/
def Items.FitWords : Items → Prop
  | .done _ => True
  | .item _ node rest => node.FitsWord ∧ rest.FitWords
  | .broken _ _ => True

/-- Whether no whole number above 64 bits stands in the fields of a record. -/
def Entries.FitWords : Entries → Prop
  | .done _ => True
  | .entry _ _ node rest => node.FitsWord ∧ rest.FitWords
  | .broken _ _ => True

end

theorem fitsWord_leafOfRead {result : Read Json} (words : ReadsWord result) :
    (leafOfRead result).1.FitsWord := by
  cases result with
  | ok value => exact words
  | error fault => trivial

theorem fitsWord_leafOf (value : Json) (fits : value.FitsWord) (result : Read Unit) :
    (leafOf value result).1.FitsWord := by
  cases result with
  | ok done => exact fits
  | error fault => trivial

section Steps

variable {steps : Nat}
  (values : ∀ depth cursor, (readValue steps depth cursor).1.FitsWord)
  (items : ∀ depth isFirst cursor, (readItems steps depth isFirst cursor).1.FitWords)
  (entries : ∀ depth isFirst cursor, (readEntries steps depth isFirst cursor).1.FitWords)

include items entries in
theorem fitsWord_readValue_succ (depth : Nat) (cursor : Cursor) :
    (readValue (steps + 1) depth cursor).1.FitsWord := by
  unfold readValue
  simp only
  split
  next => trivial
  next =>
    -- One case for each character that a document may start with.
    split
    next => exact fitsWord_leafOf .null trivial _
    next => exact fitsWord_leafOf (.bool true) trivial _
    next => exact fitsWord_leafOf (.bool false) trivial _
    next => split <;> trivial
    next => exact fitsWord_leafOfRead (readsWord_readNumber ..)
    next =>
      cases depth with
      | zero => trivial
      | succ depth => exact items ..
    next =>
      cases depth with
      | zero => trivial
      | succ depth => exact entries ..
    next =>
      split
      next => exact fitsWord_leafOfRead (readsWord_readNumber ..)
      next => trivial

include values items in
theorem fitWords_readItems_succ (depth : Nat) (isFirst : Bool) (cursor : Cursor) :
    (readItems (steps + 1) depth isFirst cursor).1.FitWords := by
  unfold readItems
  extract_lets cursor item
  have fits (start : Cursor) : (item start).1.FitWords := ⟨values .., items ..⟩
  split
  next => trivial
  next =>
    split
    next => trivial
    next =>
      split
      next => exact fits _
      next =>
        split
        next =>
          split
          next => trivial
          next =>
            split
            next => trivial
            next => exact fits _
        next => trivial

include values entries in
theorem fitWords_readEntries_succ (depth : Nat) (isFirst : Bool) (cursor : Cursor) :
    (readEntries (steps + 1) depth isFirst cursor).1.FitWords := by
  unfold readEntries
  extract_lets cursor entry
  have fits (start : Cursor) : (entry start).1.FitWords := by
    unfold entry
    split
    next => trivial
    next =>
      split
      next => trivial
      next =>
        refine ⟨?_, entries ..⟩
        split
        next => trivial
        next => exact values ..
        next => trivial
    next => split <;> trivial
  split
  next => trivial
  next =>
    split
    next => trivial
    next =>
      split
      next => exact fits _
      next =>
        split
        next => exact fits _
        next => trivial

end Steps

/-- However many steps are left, what the rules read has no whole number above 64 bits. -/
theorem fitsWord_of_steps (steps : Nat) :
    (∀ depth cursor, (readValue steps depth cursor).1.FitsWord) ∧
      (∀ depth isFirst cursor, (readItems steps depth isFirst cursor).1.FitWords) ∧
      (∀ depth isFirst cursor, (readEntries steps depth isFirst cursor).1.FitWords) := by
  induction steps with
  | zero =>
    refine ⟨fun depth cursor => ?_, fun depth isFirst cursor => ?_, fun depth isFirst cursor => ?_⟩
    · unfold readValue; trivial
    · unfold readItems; trivial
    · unfold readEntries; trivial
  | succ steps ih =>
    obtain ⟨values, items, entries⟩ := ih
    exact ⟨fitsWord_readValue_succ items entries, fitWords_readItems_succ values items,
      fitWords_readEntries_succ values entries⟩

/-- No whole number above 64 bits stands in a document that is read. -/
theorem fitsWord_read (text : String) : (Json.read text).node.FitsWord := by
  unfold Json.read
  exact (fitsWord_of_steps _).1 ..

end Querent.Json
