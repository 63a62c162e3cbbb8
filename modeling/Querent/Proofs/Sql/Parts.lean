import Querent.Sql.Kind

/-!
# The parts of a query

The bodies that a query is built from, in the order in which its kind asks for them: those of the
tables that it defines, then those of its own body, where a set operation has its left side first.
Parentheses and set operations are no parts of their own.  What a query reads from and what its
expressions hold belongs to no part but to the selection around it.

The kind of a query is decided by its parts: it is a selection exactly when every part is a `SELECT`
without a target, and otherwise the first other part says what the query does instead.
-/

namespace Querent.Sql

mutual

/-- The bodies that a query is built from. -/
def Query.parts : Query → List Body
  | ⟨_, definitions, body, _, _, _, _, _, _, _⟩ =>
    Definition.parts definitions ++ body.parts

/-- The bodies that several defined tables are built from. -/
def Definition.parts : List Definition → List Body
  | [] => []
  | ⟨_, query, _⟩ :: rest => query.parts ++ Definition.parts rest

/-- The bodies that a body is built from. -/
def Body.parts : Body → List Body
  | .query query => query.parts
  | .operation _ _ left right => left.parts ++ right.parts
  | .select selection => [.select selection]
  | .values rowKeyword rows => [.values rowKeyword rows]
  | .table schema name => [.table schema name]
  | .insert text => [.insert text]
  | .update text => [.update text]

end

/-- Whether a body is a selection that writes nowhere. -/
def Body.isPlainSelect : Body → Bool
  | .select selection => selection.target.isNone
  | _ => false

/-- What a body does that is no plain selection. -/
def Body.offence : Body → StatementKind
  | .select _ => .ddl
  | .insert _ => .insert
  | _ => .other

theorem Body.offence_ne_select (body : Body) : body.offence ≠ .select := by
  cases body <;> simp [Body.offence]

/-- The kind of a query with the given parts. -/
def kindOfParts (parts : List Body) : StatementKind :=
  match parts.find? fun part => !part.isPlainSelect with
  | some part => part.offence
  | none => .select

@[simp]
theorem kindOfParts_nil : kindOfParts [] = .select := rfl

theorem kindOfParts_eq_select_iff {parts : List Body} :
    kindOfParts parts = .select ↔ ∀ part ∈ parts, part.isPlainSelect = true := by
  unfold kindOfParts
  split
  · rename_i part found
    have offending := List.find?_some found
    have member := List.mem_of_find?_eq_some found
    constructor
    · intro isSelect
      exact absurd isSelect part.offence_ne_select
    · intro plain
      simp [plain part member] at offending
  · rename_i absent
    simpa using absent

/-- Parts that are looked at later matter only when all earlier ones are plain selections. -/
theorem kindOfParts_append (first second : List Body) :
    kindOfParts (first ++ second) =
      match kindOfParts first with
      | .select => kindOfParts second
      | kind => kind := by
  cases found : first.find? fun part => !part.isPlainSelect with
  | none =>
      have plainFirst : kindOfParts first = .select := by
        simp [kindOfParts, found]
      rw [plainFirst]
      simp [kindOfParts, List.find?_append, found]
  | some part =>
      have offence : kindOfParts first = part.offence := by
        simp [kindOfParts, found]
      have unchanged : kindOfParts (first ++ second) = part.offence := by
        simp [kindOfParts, List.find?_append, found]
      rw [unchanged, offence]
      cases part <;> rfl

@[simp]
theorem Body.kind_select (selection : Select) :
    (Body.select selection).kind = if selection.target.isSome then .ddl else .select := by
  cases selection
  rfl

/-- A kind other than a selection comes from a first part that is no plain selection. -/
theorem kindOfParts_eq_iff {parts : List Body} {kind : StatementKind} (offends : kind ≠ .select) :
    kindOfParts parts = kind ↔
      ∃ before part after, parts = before ++ part :: after ∧
        (∀ earlier ∈ before, earlier.isPlainSelect = true) ∧
        part.isPlainSelect = false ∧ part.offence = kind := by
  unfold kindOfParts
  split
  · rename_i part found
    obtain ⟨offending, before, after, split, plain⟩ := List.find?_eq_some_iff_append.1 found
    constructor
    · intro sameKind
      exact ⟨before, part, after, split, by simpa using plain, by simpa using offending, sameKind⟩
    · rintro ⟨before', part', after', split', plain', offending', sameKind⟩
      have found' : parts.find? (fun part => !part.isPlainSelect) = some part' :=
        List.find?_eq_some_iff_append.2
          ⟨by simpa using offending', before', after', split', by simpa using plain'⟩
      rw [found] at found'
      cases found'
      exact sameKind
  · rename_i absent
    constructor
    · intro isSelect
      exact absurd isSelect.symm offends
    · rintro ⟨before, part, after, rfl, _, offending, _⟩
      have plain := List.find?_eq_none.1 absent part (by simp)
      simp [offending] at plain

mutual

/-- The kind of a query is the kind of its parts. -/
theorem Query.kind_eq_kindOfParts : ∀ query : Query, query.kind = kindOfParts query.parts
  | ⟨_, definitions, body, _, _, _, _, _, _, _⟩ => by
    rw [Query.kind, Query.parts, kindOfParts_append, Definition.firstKind_eq,
      body.kind_eq_kindOfParts]
    cases kindOfParts (Definition.parts definitions) <;> rfl

/-- The first kind among several definitions that is no selection is the kind of their parts. -/
theorem Definition.firstKind_eq : ∀ definitions : List Definition,
    Definition.firstKind definitions =
      match kindOfParts (Definition.parts definitions) with
      | .select => none
      | kind => some kind
  | [] => rfl
  | ⟨_, query, _⟩ :: rest => by
    rw [Definition.firstKind, Definition.parts, kindOfParts_append, query.kind_eq_kindOfParts,
      Definition.firstKind_eq rest]
    cases kindOfParts query.parts <;> rfl

/-- The kind of a body is the kind of its parts. -/
theorem Body.kind_eq_kindOfParts : ∀ body : Body, body.kind = kindOfParts body.parts
  | .select selection => by
    cases hasTarget : selection.target <;>
      simp [Body.parts, kindOfParts, Body.isPlainSelect, Body.offence, hasTarget]
  | .query query => by
    rw [Body.kind, Body.parts, query.kind_eq_kindOfParts]
  | .operation _ _ left right => by
    have both := kindOfParts_append left.parts right.parts
    rw [← left.kind_eq_kindOfParts, ← right.kind_eq_kindOfParts] at both
    exact both.symm
  | .values _ _ => rfl
  | .table _ _ => rfl
  | .insert _ => rfl
  | .update _ => rfl

end

end Querent.Sql
