import Querent.Settings.Layer

/-!
# Trees under layers

What becomes of the parts of a tree when settings are laid over it one after the other.  The settings
that go into a part form a layer of their own, and the part is what that layer makes of it; a part
into which no setting goes stays as it is.  A part into which some setting goes shows nothing of what
was there before, except that a table keeps names that no setting takes away.
-/

namespace Querent.SettingTree

/-- Settings with the paths to the parts over which they are laid. -/
abbrev Paths := List (List SettingStep × SettingTree)

/-- The paths of a layer. -/
def paths (layer : List (String × SettingTree)) : Paths :=
  layer.map fun setting => (pathOf setting.1, setting.2)

/-- Lays settings over the parts at the ends of their paths, one after the other. -/
def under (tree : SettingTree) (upper : Paths) : SettingTree :=
  upper.foldl (fun tree setting => setting.2.overPart setting.1 tree) tree

/-- The path within the part with a name, if a path goes into that part. -/
def within? (name : String) : List SettingStep → Option (List SettingStep)
  | .field other :: rest => if other = name then some rest else none
  | _ => none

/-- The settings that go into the part with a name, with their paths within it. -/
def into (name : String) (upper : Paths) : Paths :=
  upper.filterMap fun setting => (within? name setting.1).map fun rest => (rest, setting.2)

/-- Whether all paths start with a name. -/
def ByName (upper : Paths) : Prop :=
  ∀ setting ∈ upper, ∃ name rest, setting.1 = .field name :: rest

instance (upper : Paths) : Decidable (ByName upper) :=
  decidable_of_iff (∀ setting ∈ upper, (setting.1.head?.any fun
      | .field _ => true
      | .index _ => false) = true) <| by
    refine forall₂_congr fun setting _ => ?_
    obtain ⟨path, part⟩ := setting
    cases path with
    | nil => simp
    | cons step rest => cases step <;> simp

/-- Whether a tree is a list. -/
def isList : SettingTree → Bool
  | list _ _ => true
  | _ => false

/-! ## Parts -/

theorem withLayer_eq_under (tree : SettingTree) (layer : List (String × SettingTree)) :
    tree.withLayer layer = tree.under (paths layer) := by
  simp only [withLayer, under, paths, List.foldl_map]

@[simp]
theorem under_nil (tree : SettingTree) : tree.under [] = tree := rfl

@[simp]
theorem under_cons (tree : SettingTree) (setting : List SettingStep × SettingTree) (upper : Paths) :
    tree.under (setting :: upper) = (setting.2.overPart setting.1 tree).under upper := rfl

theorem under_append (tree : SettingTree) (first second : Paths) :
    tree.under (first ++ second) = (tree.under first).under second :=
  List.foldl_append ..

@[simp]
theorem into_nil (name : String) : into name [] = [] := rfl

theorem into_cons (name other : String) (rest : List SettingStep) (part : SettingTree)
    (upper : Paths) :
    into name ((.field other :: rest, part) :: upper) =
      if other = name then (rest, part) :: into name upper else into name upper := by
  unfold into
  by_cases same : other = name
  · rw [List.filterMap_cons_some (b := (rest, part)) (by simp [within?, same]), if_pos same]
  · rw [List.filterMap_cons_none (by simp [within?, same]), if_neg same]

/-- A path starts with a name, whatever the key. -/
theorem exists_pathOf_eq (key : String) : ∃ name rest, pathOf key = .field name :: rest := by
  unfold pathOf
  cases path : readPath key with
  | none => exact ⟨key, [], rfl⟩
  | some steps =>
    unfold readPath at path
    simp only at path
    split at path
    next => cases path
    next =>
      obtain ⟨rest, _, rfl⟩ := Option.map_eq_some_iff.1 path
      exact ⟨_, rest, rfl⟩

theorem byName_paths (layer : List (String × SettingTree)) : ByName (paths layer) := by
  intro setting member
  obtain ⟨original, _, rfl⟩ := List.mem_map.1 member
  exact exists_pathOf_eq original.1

theorem field?_overPart (upper tree : SettingTree) (name other : String) (rest : List SettingStep) :
    (upper.overPart (.field name :: rest) tree).field? other =
      if other = name then some (upper.overPart rest ((tree.field? name).getD absent))
      else tree.field? other := by
  rw [overPart, field?, fields, lookup_putField]
  rfl

/-- A part is what the settings that go into it make of it. -/
theorem field?_under {upper : Paths} (named : ByName upper) (tree : SettingTree) (name : String) :
    (tree.under upper).field? name =
      if into name upper = [] then tree.field? name
      else some (((tree.field? name).getD absent).under (into name upper)) := by
  induction upper generalizing tree with
  | nil => rfl
  | cons setting upper ih =>
    have later : ByName upper := fun other member => named other (List.mem_cons_of_mem _ member)
    obtain ⟨path, part⟩ := setting
    obtain ⟨other, rest, rfl⟩ := named _ List.mem_cons_self
    rw [under_cons, ih later, field?_overPart, into_cons]
    by_cases same : name = other
    · subst same
      simp only [if_true, Option.getD_some, under_cons, List.cons_ne_nil, if_false]
      split
      next none => rw [none, under_nil]
      next => rfl
    · rw [if_neg same, if_neg (Ne.symm same)]

/-- A tree that some setting goes into by name is a table. -/
theorem exists_under_eq_table {upper : Paths} (named : ByName upper) (some : upper ≠ [])
    (tree : SettingTree) : ∃ fields, tree.under upper = .table fields none := by
  obtain ⟨before, setting, rfl⟩ : ∃ before setting, upper = before ++ [setting] :=
    ⟨_, _, (List.dropLast_concat_getLast some).symm⟩
  obtain ⟨name, rest, path⟩ := named setting (by simp)
  obtain ⟨steps, part⟩ := setting
  obtain rfl : steps = .field name :: rest := path
  rw [under_append]
  exact ⟨_, rfl⟩

/-! ## What comes from below -/

/-- The names of the fields of a tree. -/
def names (tree : SettingTree) : List String :=
  tree.fields.map Prod.fst

/-- Whether a tree shows what another one shows, apart from further fields of a table. -/
inductive Covers : SettingTree → SettingTree → Prop
  | leaf (value : SettingValue) (source : Option SettingSource) :
    Covers (.leaf value source) (.leaf value source)
  | list (items others : List SettingTree) (source other : Option SettingSource) :
    Covers (.list items source) (.list others other)
  | table (fields others : List (String × SettingTree)) (source other : Option SettingSource)
    (some : others ≠ []) (once : (names (.table others other)).Nodup)
    (known : names (.table others other) ⊆ names (.table fields source)) :
    Covers (.table fields source) (.table others other)

/-- Whether the names of a tree are names of another one, each once. -/
def NamesWithin (tree other : SettingTree) : Prop :=
  tree.names.Nodup ∧ tree.names ⊆ other.names

theorem Covers.namesWithin {tree other : SettingTree} (covers : Covers tree other) :
    NamesWithin other tree := by
  cases covers with
  | leaf value source => exact ⟨List.nodup_nil, List.nil_subset _⟩
  | list items others source other => exact ⟨List.nodup_nil, List.nil_subset _⟩
  | table fields others source other some once known => exact ⟨once, known⟩

theorem putField_ne_nil (name : String) (part : SettingTree)
    (fields : List (String × SettingTree)) : putField name part fields ≠ [] := by
  cases fields with
  | nil => exact List.cons_ne_nil _ _
  | cons field fields =>
    rw [putField]
    split
    next => exact List.cons_ne_nil _ _
    next => exact List.cons_ne_nil _ _

theorem mem_map_fst_putField {name other : String} {part : SettingTree}
    {fields : List (String × SettingTree)} :
    other ∈ (putField name part fields).map Prod.fst ↔
      other = name ∨ other ∈ fields.map Prod.fst := by
  induction fields with
  | nil => simp [putField]
  | cons field fields ih =>
    obtain ⟨first, old⟩ := field
    by_cases same : first = name
    · subst same
      simp [putField]
    · simp only [putField, beq_eq_false_iff_ne.2 same, Bool.false_eq_true, if_false, List.map_cons,
        List.mem_cons, ih]
      exact or_left_comm

theorem nodup_map_fst_putField {name : String} {part : SettingTree}
    {fields : List (String × SettingTree)} (once : (fields.map Prod.fst).Nodup) :
    ((putField name part fields).map Prod.fst).Nodup := by
  induction fields with
  | nil => simp [putField]
  | cons field fields ih =>
    obtain ⟨first, old⟩ := field
    obtain ⟨new, later⟩ := List.nodup_cons.1 once
    by_cases same : first = name
    · subst same
      simpa [putField] using once
    · simp only [putField, beq_eq_false_iff_ne.2 same, Bool.false_eq_true, if_false, List.map_cons,
        List.nodup_cons, mem_map_fst_putField, ih later, and_true]
      rintro (found | found)
      · exact same found
      · exact new found

/-- A value that is laid over a part leaves nothing but further fields of what was below. -/
theorem covers_overPart {tree other : SettingTree} (within : NamesWithin other tree)
    (value : SettingValue) (source : Option SettingSource) (path : List SettingStep) :
    Covers (overPart (.leaf value source) path tree) (overPart (.leaf value source) path other) := by
  obtain ⟨once, known⟩ := within
  cases path with
  | nil => exact .leaf value source
  | cons step rest =>
    cases step with
    | field name =>
      refine .table _ _ none none (putField_ne_nil _ _ _) (nodup_map_fst_putField once)
        fun found member => ?_
      rcases mem_map_fst_putField.1 member with rfl | old
      · exact mem_map_fst_putField.2 (.inl rfl)
      · exact mem_map_fst_putField.2 (.inr (known old))
    | index n => exact .list _ _ none none

/-- What several values make of a part depends on what was below in further fields only. -/
theorem covers_under {upper : Paths} (some : upper ≠ [])
    (leaves : ∀ setting ∈ upper, ∃ value source, setting.2 = .leaf value source)
    {tree other : SettingTree} (within : NamesWithin other tree) :
    Covers (tree.under upper) (other.under upper) := by
  induction upper generalizing tree other with
  | nil => exact absurd rfl some
  | cons setting upper ih =>
    obtain ⟨path, part⟩ := setting
    obtain ⟨value, source, rfl⟩ := leaves _ List.mem_cons_self
    have step := covers_overPart within value source path
    rw [under_cons, under_cons]
    cases upper with
    | nil => exact step
    | cons next upper =>
      exact ih (List.cons_ne_nil _ _)
        (fun setting member => leaves setting (List.mem_cons_of_mem _ member)) step.namesWithin

theorem namesWithin_absent (tree : SettingTree) : NamesWithin absent tree :=
  ⟨List.nodup_nil, List.nil_subset _⟩

end Querent.SettingTree
