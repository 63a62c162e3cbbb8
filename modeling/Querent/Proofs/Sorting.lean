/-!
# Sorting

Sorting is stable: a new first value is put between those that it does not come before and those that
it comes before.  So values may be left out before or after sorting.
-/

namespace Querent

variable {α : Type} {before : α → α → Bool}
  (trans : ∀ a b c, before a b → before b c → before a c) (total : ∀ a b, before a b || before b a)

include trans total

/-- A value is put between those that it does not come before and those that it comes before. -/
theorem mergeSort_split (value : α) (values : List α) :
    let early := (values.mergeSort before).filter fun other => !before value other
    let late := (values.mergeSort before).filter fun other => before value other
    values.mergeSort before = early ++ late ∧
      (value :: values).mergeSort before = early ++ value :: late := by
  obtain ⟨first, second, whole, rest, early⟩ := List.mergeSort_cons trans total value values
  have sorted := List.pairwise_mergeSort trans total (value :: values)
  rw [whole] at sorted
  have late : ∀ other ∈ second, before value other := fun other member =>
    (List.pairwise_cons.1 (List.pairwise_append.1 sorted).2.1).1 other member
  have lateGone : second.filter (fun other => !before value other) = [] :=
    List.filter_eq_nil_iff.2 fun other member => by simp [late other member]
  have earlyGone : first.filter (fun other => before value other) = [] :=
    List.filter_eq_nil_iff.2 fun other member => by simpa using early other member
  simp only [whole, rest, List.filter_append, lateGone, earlyGone, List.filter_eq_self.2 early,
    List.filter_eq_self.2 late, List.append_nil, List.nil_append, and_self]

/-- The values that are kept stand in the order in which they would stand alone. -/
theorem filter_mergeSort (keep : α → Bool) (values : List α) :
    (values.mergeSort before).filter keep = (values.filter keep).mergeSort before := by
  induction values with
  | nil => simp
  | cons value values ih =>
    have apart (late : α → Bool) :
        ((values.mergeSort before).filter late).filter keep =
          ((values.filter keep).mergeSort before).filter late := by
      rw [← ih, List.filter_filter, List.filter_filter]
      exact List.filter_congr fun other _ => Bool.and_comm _ _
    have kept := mergeSort_split trans total value (values.filter keep)
    rw [(mergeSort_split trans total value values).2, List.filter_append, List.filter_cons, apart,
      apart, List.filter_cons]
    split
    next => exact kept.2.symm
    next => exact kept.1.symm

end Querent
