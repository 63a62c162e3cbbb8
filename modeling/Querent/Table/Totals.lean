/-!
# Totals by label

Numbers are added up by label, one after the other.  Every label has a slot for its total.  The slots
are kept in the order in which their labels first appeared, and an index tells the place of the slot
of each label.
-/

namespace Querent

/-- Whether an index finds a label at a place exactly when the slot at that place is the label's. -/
def Indexes (places : List (String × Nat)) (slots : Array (String × Float)) : Prop :=
  ∀ label place, places.lookup label = some place ↔ slots[place]?.map Prod.fst = some label

namespace Indexes

variable {places : List (String × Nat)} {slots : Array (String × Float)}

theorem empty : Indexes [] #[] := by
  intro label place
  simp

/-- A change of what is in the slots leaves the index right. -/
theorem modify (indexes : Indexes places slots) (place : Nat) (change : Float → Float) :
    Indexes places (slots.modify place fun slot => (slot.1, change slot.2)) := by
  intro label other
  rw [indexes label other, Array.getElem?_modify]
  split
  next =>
    rw [Option.map_map]
    rfl
  next => rfl

/-- A new label is found in the slot behind all others. -/
theorem push (indexes : Indexes places slots) {label : String}
    (new : places.lookup label = none) (total : Float) :
    Indexes ((label, slots.size) :: places) (slots.push (label, total)) := by
  have absent : ∀ place : Nat, slots[place]?.map Prod.fst ≠ some label := by
    intro place present
    rw [(indexes label place).2 present] at new
    cases new
  intro other place
  rw [List.lookup_cons, Array.getElem?_push]
  by_cases same : other = label
  · by_cases last : place = slots.size
    · simp [same, last]
    · have before : slots.size ≠ place := fun equal => last equal.symm
      simp [same, last, before, absent place]
  · rw [beq_eq_false_iff_ne.2 same]
    by_cases last : place = slots.size
    · have different : label ≠ other := fun equal => same equal.symm
      have outside : places.lookup other ≠ some slots.size := by
        intro found
        have inside := (indexes other slots.size).1 found
        simp at inside
      simp [last, different, outside]
    · rw [if_neg last]
      exact indexes other place

end Indexes

/-- The totals of numbers by label. -/
structure Totals where
  slots : Array (String × Float)
  places : List (String × Nat)
  indexed : Indexes places slots

namespace Totals

/-- No totals. -/
def empty : Totals :=
  ⟨#[], [], .empty⟩

/-- Adds a number to the total of a label; the slot of a label that is new comes last. -/
def add (totals : Totals) (label : String) (value : Float) : Totals :=
  match known : totals.places.lookup label with
  | some place =>
    ⟨totals.slots.modify place fun slot => (slot.1, slot.2 + value), totals.places,
      totals.indexed.modify place (· + value)⟩
  | none =>
    ⟨totals.slots.push (label, value), (label, totals.slots.size) :: totals.places,
      totals.indexed.push known value⟩

/-- The totals of the numbers in pairs of a label and a number. -/
def ofPairs (pairs : List (String × Float)) : Totals :=
  pairs.foldl (fun totals pair => totals.add pair.1 pair.2) empty

end Totals

end Querent
