import Mathlib.Data.String.Basic
import Querent.Proofs.Settings.Keys
import Querent.Proofs.Sorting

/-!
# Settings in the environment

What the variables of the environment say about a setting.  The variables are taken in the order of
their names, but the ones that say nothing about a setting may be left out without a change to what
the others say about it.
-/

namespace Querent

open SettingTree SettingLayer

namespace SettingLayer

/-! ## Layers of variables -/

/-- The variables without those that hold the setting with a key. -/
def without (key : String) (environment : List (String × String)) : List (String × String) :=
  environment.filter fun entry => keyOfVariable entry.1 != some key

theorem filter_ofVariables (key : String) (environment : List (String × String)) :
    ofVariables (without key environment) =
      (ofVariables environment).filter fun setting => setting.1 != key := by
  unfold ofVariables without
  rw [← filter_mergeSort, List.filterMap_filter, List.filter_filterMap]
  · refine List.filterMap_congr fun entry _ => ?_
    obtain ⟨name, text⟩ := entry
    cases held : keyOfVariable name with
    | none => simp [held]
    | some found => by_cases same : found = key <;> simp [held, Option.filter, same]
  · intro a b c first second
    rw [decide_eq_true_eq] at *
    exact le_trans first second
  · intro a b
    rw [Bool.or_eq_true, decide_eq_true_eq, decide_eq_true_eq]
    exact le_total a.1 b.1

/-- What is picked from the settings in the environment does not depend on variables without what is
picked. -/
theorem filterMap_ofVariables {α : Type} {pick : String × SettingTree → Option α} {key : String}
    (passed : ∀ part, pick (key, part) = none) (environment : List (String × String)) :
    (ofVariables environment).filterMap pick =
      (ofVariables (without key environment)).filterMap pick := by
  rw [filter_ofVariables, List.filterMap_filter]
  refine List.filterMap_congr fun setting _ => ?_
  obtain ⟨found, part⟩ := setting
  by_cases same : found = key
  · subst same
    simp [passed]
  · simp [same]

/-- The settings in the environment are single values. -/
theorem exists_eq_leaf_of_mem {environment : List (String × String)} {setting : String × SettingTree}
    (member : setting ∈ ofVariables environment) :
    ∃ value source, setting.2 = .leaf value source := by
  obtain ⟨⟨name, text⟩, _, held⟩ := List.mem_filterMap.1 member
  obtain ⟨key, _, rfl⟩ := Option.map_eq_some_iff.1 held
  exact ⟨_, _, rfl⟩

end SettingLayer

namespace SettingKey

/-! ## Settings of the program -/

/-- What the environment says about a group, with paths within the group. -/
def ofGroup (group : String) (environment : List (String × String)) : Paths :=
  into group (paths (ofVariables environment))

/-- What the environment says about a setting in its group. -/
def said (key : SettingKey) (environment : List (String × String)) : Paths :=
  into key.name (ofGroup key.group environment)

/-- What the environment says about a group does not depend on settings of other groups. -/
theorem ofGroup_without {key : SettingKey} {group : String} (other : group ≠ key.group)
    (environment : List (String × String)) :
    ofGroup group (without key.path environment) = ofGroup group environment := by
  have passed (part : SettingTree) :
      (within? group (pathOf key.path)).map (fun rest => (rest, part)) = none := by
    rw [pathOf_path, within?, if_neg other.symm, Option.map_none]
  simp only [ofGroup, into, paths, List.filterMap_map]
  exact (filterMap_ofVariables passed environment).symm

/-- What the environment says about a setting does not depend on other settings. -/
theorem said_without {key other : SettingKey} (different : other ≠ key)
    (environment : List (String × String)) :
    other.said (without key.path environment) = other.said environment := by
  by_cases same : other.group = key.group
  · have names : key.name ≠ other.name := fun names => different (ext same names.symm)
    have passed (part : SettingTree) :
        ((within? other.group (pathOf key.path)).map fun rest => (rest, part)).bind
          (fun setting => (within? other.name setting.1).map fun rest => (rest, setting.2)) =
        none := by
      rw [pathOf_path, within?, if_pos same.symm, Option.map_some, Option.bind_some, within?,
        if_neg names, Option.map_none]
    simp only [said, ofGroup, into, paths, List.filterMap_map, List.filterMap_filterMap]
    exact (filterMap_ofVariables passed environment).symm
  · rw [said, said, ofGroup_without same]

/-- The environment says nothing but single values about a setting. -/
theorem exists_eq_leaf_of_mem_said {key : SettingKey} {environment : List (String × String)}
    {setting : List SettingStep × SettingTree} (member : setting ∈ key.said environment) :
    ∃ value source, setting.2 = .leaf value source := by
  obtain ⟨inner, first, within⟩ := List.mem_filterMap.1 member
  obtain ⟨_, _, rfl⟩ := Option.map_eq_some_iff.1 within
  obtain ⟨outer, second, within⟩ := List.mem_filterMap.1 first
  obtain ⟨_, _, rfl⟩ := Option.map_eq_some_iff.1 within
  obtain ⟨original, third, rfl⟩ := List.mem_map.1 second
  exact exists_eq_leaf_of_mem third

end SettingKey

end Querent
