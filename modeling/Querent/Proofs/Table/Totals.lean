import Mathlib.Data.List.Induction
import Querent.Table.Totals

/-!
# Adding up by label

However the slots are kept, the totals of pairs of a label and a number are what adding up by hand
would give: the labels stand in the order in which they first appear, each of them once, and the total
of a label is the sum from left to right of exactly the numbers that stand under it.
-/

namespace Querent

/-! ## Labels without repetition -/

theorem eraseDups_append_singleton (labels : List String) (label : String) :
    (labels ++ [label]).eraseDups =
      if label ∈ labels then labels.eraseDups else labels.eraseDups ++ [label] := by
  rw [List.eraseDups_append]
  split
  next present => simp [List.removeAll, present]
  next absent => simp [List.removeAll, absent, List.eraseDups_cons]

/-- Without repetition, labels stand in the order in which they first appear. -/
theorem pairwise_eraseDups (labels : List String) :
    labels.eraseDups.Pairwise fun a b => labels.idxOf a < labels.idxOf b := by
  induction labels using List.reverseRecOn with
  | nil => simp
  | append_singleton labels label ih =>
    have kept : labels.eraseDups.Pairwise fun a b =>
        (labels ++ [label]).idxOf a < (labels ++ [label]).idxOf b := by
      apply ih.imp_of_mem
      intro a b first second earlier
      rw [List.idxOf_append, List.idxOf_append, if_pos (List.mem_eraseDups.1 first),
        if_pos (List.mem_eraseDups.1 second)]
      exact earlier
    rw [eraseDups_append_singleton]
    split
    next => exact kept
    next absent =>
      apply List.pairwise_append.2
      constructor
      · exact kept
      · constructor
        · exact List.pairwise_singleton _ _
        · intro a first b last
          rw [List.mem_singleton.1 last, List.idxOf_append, List.idxOf_append,
            if_pos (List.mem_eraseDups.1 first), if_neg absent]
          exact Nat.lt_add_left _ (List.idxOf_lt_length_of_mem (List.mem_eraseDups.1 first))

namespace Totals

/-! ## Sums -/

/-- The sum of numbers from left to right, which starts with the first of them. -/
def sumOf? : List Float → Option Float
  | [] => none
  | first :: rest => some (rest.foldl (· + ·) first)

@[simp]
theorem sumOf?_nil : sumOf? [] = none := rfl

@[simp]
theorem sumOf?_singleton (value : Float) : sumOf? [value] = some value := rfl

/-- A last number is added to the sum of those before it. -/
theorem sumOf?_append_singleton {values : List Float} {total : Float}
    (before : sumOf? values = some total) (value : Float) :
    sumOf? (values ++ [value]) = some (total + value) := by
  cases values with
  | nil => cases before
  | cons first rest =>
    rw [sumOf?, Option.some.injEq] at before
    rw [List.cons_append, sumOf?, List.foldl_append, before]
    rfl

/-- The numbers that stand under a label, in their order. -/
def numbersUnder (label : String) (pairs : List (String × Float)) : List Float :=
  (pairs.filter fun pair => pair.1 == label).map Prod.snd

theorem numbersUnder_append_self (label : String) (value : Float) (pairs : List (String × Float)) :
    numbersUnder label (pairs ++ [(label, value)]) = numbersUnder label pairs ++ [value] := by
  simp [numbersUnder]

theorem numbersUnder_append_other {label other : String} (different : label ≠ other) (value : Float)
    (pairs : List (String × Float)) :
    numbersUnder other (pairs ++ [(label, value)]) = numbersUnder other pairs := by
  simp [numbersUnder, different]

/-- Nothing stands under a label that does not appear. -/
theorem numbersUnder_eq_nil_iff {label : String} {pairs : List (String × Float)} :
    numbersUnder label pairs = [] ↔ label ∉ pairs.map Prod.fst := by
  rw [numbersUnder, List.map_eq_nil_iff, List.filter_eq_nil_iff]
  constructor
  · intro none appears
    rcases List.mem_map.1 appears with ⟨pair, member, same⟩
    exact none pair member (beq_iff_eq.2 same)
  · intro absent pair member same
    apply absent
    rw [← beq_iff_eq.1 same]
    exact List.mem_map_of_mem member

/-! ## One more number -/

variable {totals : Totals} {label : String}

/-- The labels that have a total, in the order of their slots. -/
def labels (totals : Totals) : List String :=
  totals.slots.toList.map Prod.fst

/-- The index knows exactly the labels that have a total. -/
theorem lookup_places_eq_none_iff : totals.places.lookup label = none ↔ label ∉ totals.labels := by
  constructor
  · intro unknown present
    rcases List.mem_iff_getElem?.1 present with ⟨place, found⟩
    rw [labels, List.getElem?_map, Array.getElem?_toList] at found
    rw [(totals.indexed label place).2 found] at unknown
    cases unknown
  · intro absent
    apply Option.eq_none_iff_forall_ne_some.2
    intro place known
    apply absent
    apply List.mem_iff_getElem?.2
    exists place
    rw [labels, List.getElem?_map, Array.getElem?_toList]
    exact (totals.indexed label place).1 known

theorem slots_add_of_known {place : Nat} (known : totals.places.lookup label = some place)
    (value : Float) :
    (totals.add label value).slots =
      totals.slots.modify place fun slot => (slot.1, slot.2 + value) := by
  unfold add
  split
  next other found =>
    rw [known, Option.some.injEq] at found
    rw [found]
  next unknown =>
    rw [known] at unknown
    cases unknown

theorem slots_add_of_unknown (unknown : totals.places.lookup label = none) (value : Float) :
    (totals.add label value).slots = totals.slots.push (label, value) := by
  unfold add
  split
  next place known =>
    rw [unknown] at known
    cases known
  next => rfl

/-- A label that is new comes last, and the labels that are there stay where they are. -/
theorem labels_add (totals : Totals) (label : String) (value : Float) :
    (totals.add label value).labels =
      if label ∈ totals.labels then totals.labels else totals.labels ++ [label] := by
  cases known : totals.places.lookup label with
  | none =>
    rw [if_neg (lookup_places_eq_none_iff.1 known), labels, slots_add_of_unknown known,
      Array.toList_push, List.map_append]
    rfl
  | some place =>
    have present : label ∈ totals.labels := by
      by_contra absent
      rw [lookup_places_eq_none_iff.2 absent] at known
      cases known
    rw [if_pos present, labels, labels, slots_add_of_known known]
    apply List.ext_getElem?
    intro other
    rw [List.getElem?_map, List.getElem?_map, Array.getElem?_toList, Array.getElem?_toList,
      Array.getElem?_modify]
    split
    next =>
      rw [Option.map_map]
      rfl
    next => rfl

/--
What is in a slot once a number has been added: the total of another label is the old one, the total
of the label has grown by the number, or the label is new and the number is its total.
-/
theorem mem_slots_add {slot : String × Float} {value : Float}
    (member : slot ∈ (totals.add label value).slots.toList) :
    slot ∈ totals.slots.toList ∧ label ≠ slot.1 ∨
      (∃ total, (label, total) ∈ totals.slots.toList ∧ slot = (label, total + value)) ∨
      label ∉ totals.labels ∧ slot = (label, value) := by
  cases known : totals.places.lookup label with
  | none =>
    have absent := lookup_places_eq_none_iff.1 known
    rw [slots_add_of_unknown known, Array.toList_push, List.mem_append, List.mem_singleton] at member
    rcases member with before | last
    · left
      constructor
      · exact before
      · intro same
        apply absent
        rw [same]
        exact List.mem_map_of_mem before
    · right
      right
      exact ⟨absent, last⟩
  | some place =>
    rw [slots_add_of_known known] at member
    rcases List.mem_iff_getElem?.1 member with ⟨other, found⟩
    rw [Array.getElem?_toList, Array.getElem?_modify] at found
    split at found
    next here =>
      subst here
      rcases Option.map_eq_some_iff.1 found with ⟨⟨own, total⟩, held, rfl⟩
      have named := (totals.indexed label place).1 known
      rw [held, Option.map_some, Option.some.injEq] at named
      subst named
      right
      left
      exact ⟨total, Array.mem_toList_iff.2 (Array.mem_of_getElem? held), rfl⟩
    next elsewhere =>
      left
      constructor
      · exact Array.mem_toList_iff.2 (Array.mem_of_getElem? found)
      · intro same
        have also : totals.places.lookup label = some other := by
          apply (totals.indexed label other).2
          rw [found, same]
          rfl
        rw [known, Option.some.injEq] at also
        exact elsewhere also

/-! ## Totals that are right -/

/-- Whether totals are the ones of pairs of a label and a number. -/
structure AddUp (totals : Totals) (pairs : List (String × Float)) : Prop where
  labels : totals.labels = (pairs.map Prod.fst).eraseDups
  sums : ∀ slot ∈ totals.slots.toList, sumOf? (numbersUnder slot.1 pairs) = some slot.2

namespace AddUp

variable {pairs : List (String × Float)}

/-- Adding a number keeps the totals right. -/
theorem add (right : totals.AddUp pairs) (label : String) (value : Float) :
    (totals.add label value).AddUp (pairs ++ [(label, value)]) := by
  constructor
  case labels =>
    rw [labels_add, right.labels, List.map_append, List.map_singleton, eraseDups_append_singleton]
    simp only [List.mem_eraseDups]
  case sums =>
    intro slot member
    rcases mem_slots_add member with ⟨before, different⟩ | ⟨total, before, rfl⟩ | ⟨absent, rfl⟩
    · rw [numbersUnder_append_other different]
      exact right.sums slot before
    · rw [numbersUnder_append_self]
      exact sumOf?_append_singleton (right.sums _ before) value
    · have nothing : numbersUnder label pairs = [] := by
        rw [numbersUnder_eq_nil_iff, ← List.mem_eraseDups, ← right.labels]
        exact absent
      rw [numbersUnder_append_self, nothing]
      rfl

/-- Exactly the labels with numbers have a total, and it is the sum of their numbers. -/
theorem mem_slots_iff (right : totals.AddUp pairs) (slot : String × Float) :
    slot ∈ totals.slots.toList ↔ sumOf? (numbersUnder slot.1 pairs) = some slot.2 := by
  constructor
  · exact right.sums slot
  · intro sum
    have appears : slot.1 ∈ totals.labels := by
      rw [right.labels, List.mem_eraseDups]
      by_contra absent
      rw [numbersUnder_eq_nil_iff.2 absent] at sum
      cases sum
    rcases List.mem_map.1 appears with ⟨held, member, same⟩
    have also := right.sums held member
    rw [same, sum, Option.some.injEq] at also
    rw [← Prod.ext same also.symm]
    exact member

/-- The totals stand in the order in which their labels first appear. -/
theorem pairwise_slots (right : totals.AddUp pairs) :
    totals.slots.toList.Pairwise fun a b =>
      (pairs.map Prod.fst).idxOf a.1 < (pairs.map Prod.fst).idxOf b.1 := by
  have ordered := pairwise_eraseDups (pairs.map Prod.fst)
  rw [← right.labels, Totals.labels, List.pairwise_map] at ordered
  exact ordered

end AddUp

/-! ## All numbers -/

theorem addUp_empty : empty.AddUp [] := by
  constructor
  · rfl
  · intro slot member
    cases member

theorem ofPairs_append_singleton (pairs : List (String × Float)) (pair : String × Float) :
    ofPairs (pairs ++ [pair]) = (ofPairs pairs).add pair.1 pair.2 := by
  rw [ofPairs, List.foldl_append]
  rfl

/-- The totals of pairs are right. -/
theorem addUp_ofPairs (pairs : List (String × Float)) : (ofPairs pairs).AddUp pairs := by
  induction pairs using List.reverseRecOn with
  | nil => exact addUp_empty
  | append_singleton pairs pair ih =>
    rw [ofPairs_append_singleton]
    exact ih.add pair.1 pair.2

end Totals

end Querent
