import Querent.Proofs.Sql.Bodies
import Querent.Proofs.Sql.Grammar.Statement

/-!
# Queries from harmless tokens change no rows

That no body in a part of a query inserts or changes rows is a trait which is passed on from harmless
tokens: the grammar reads such a body only after a forbidden word.
-/

namespace Querent.Sql

/-- What changes no rows, at any depth. -/
def steadiness : Trait where
  tokens := Harmless
  token _ := True
  text _ := True
  name _ := True
  literal _ := True
  type _ := True
  operator _ := True
  expr e := Steady e.bodies
  key e := Steady e.bodies
  order item := Steady item.key.bodies
  bound end' := Steady end'.bodies
  window window := Steady window.bodies
  partitions _ := True
  relation relation := Steady relation.bodies
  join join := Steady join.bodies
  source source := Steady source.bodies
  view view := Steady view.bodies
  item item := Steady item.bodies
  selection selection := Steady selection.innerBodies
  body body := Steady body.bodies
  definition definition := Steady definition.query.bodies
  query query := Steady query.bodies

/-- A second name puts nothing into a relation. -/
theorem bodies_withAlias (relation : Relation) (label : TableAlias) :
    (Parser.Relation.withAlias relation label).bodies = relation.bodies := by
  cases relation <;> simp [Parser.Relation.withAlias]

theorem steady_relation_of_source {source : Source} (steady : Steady source.bodies) :
    Steady source.relation.bodies := by
  cases source
  simp only [Source.bodies, steady_append] at steady
  exact steady.1

theorem steady_innerBodies {selection : Select} (parts : steadiness.OfParts selection) :
    Steady selection.innerBodies := by
  cases selection
  simp only [Select.innerBodies, steady_append, steady_exprs, steady_option, steady_items,
    steady_sources, steady_windows]
  exact ⟨⟨⟨⟨⟨⟨⟨⟨⟨⟨⟨⟨parts.distinctOn, parts.top⟩, parts.items⟩, parts.sources⟩, parts.views⟩,
    parts.condition⟩, parts.groupBy⟩, parts.clusterBy⟩, parts.distributeBy⟩, parts.sortBy⟩,
    parts.having'⟩, parts.windows⟩, parts.qualify⟩

theorem steady_query {query : Query} (clauses : steadiness.OfClauses query) :
    Steady query.bodies := by
  cases query
  simp only [Query.bodies, steady_append, steady_definitions, steady_order, steady_option,
    steady_exprs]
  exact ⟨⟨clauses.definitions, clauses.body⟩,
    ⟨⟨clauses.order, clauses.limit⟩, clauses.limitBy⟩, clauses.offset⟩

theorem steady_tuples {rows : List Expr}
    (tuples : ∀ row ∈ rows, ∃ items, row = .tuple items ∧ ∀ item ∈ items, Steady item.bodies) :
    ∀ row ∈ rows, Steady row.bodies := by
  intro row member
  obtain ⟨items, rfl, steady⟩ := tuples row member
  simpa using steady

instance : Reads Parser.identsInParens := by
  unfold Parser.identsInParens
  infer_instance

instance closed_steadiness (dialect : Dialect) : steadiness.Closed dialect where
  toLasts := inferInstanceAs (Lasts Harmless)
  toClosedTexts := by
    constructor <;> simp [steadiness]
  toClosedExprs := by
    constructor <;> simp +contextual [steadiness]
  toClosedQueries := by
    constructor
    case relation_withAlias => simp +contextual [steadiness, bodies_withAlias]
    case source_joins => simp +contextual [steadiness]
    case source_relation => exact steady_relation_of_source
    case selection_parts => exact steady_innerBodies
    case query_clauses => exact steady_query
    case body_values =>
      intro rowKeyword rows tuples
      simpa [steadiness, Body.changesRows] using steady_tuples tuples
    all_goals simp +contextual [steadiness, Join.bodies, Body.changesRows]
  partitions_read := Reads.ensures dialect Harmless

end Querent.Sql
