import Querent.Proofs.Sql.Plain.Writing
import Querent.Sql.Kind

/-!
# Scripts

A script is a row of queries with semicolons between them.  Each statement takes the loop over the
statements of a text two rounds, one of them for the semicolon behind it; as both read a token, the
loop is never short of rounds.
-/

namespace Querent.Sql.Plain

open Querent.Sql.Parser

/-! ## Statements -/

/-- How a statement is written, with or without a blank before it, and that it is read. -/
structure SpellsStatement (dialect : Dialect) (statement : Statement) (phrase : Bool → Phrase) :
    Prop where
  clear : ∀ apart, (phrase apart).Clear dialect
  starts : ∃ token ∈ queryStarts, ∀ apart, ∃ rest, phrase apart = .one apart token ++ rest
  text : ∀ apart, (phrase apart).text = (if apart then [' '] else []) ++ statement.sql.toList
  reads : ∀ size level apart, 8 * size + 4 ≤ level →
    Understands size ⟨dialect, nestingLimit⟩ queryEnds (grammarOfDepth level).statement
      (phrase apart) statement

/-- Whether a statement is spelled by a phrase, in which two signs meet where it is not strict. -/
def IsWrittenStatement (dialect : Dialect) (strict : Bool) (statement : Statement) : Prop :=
  ∃ phrase, SpellsStatement dialect statement phrase ∧
    Parted strict phrase (IsStatement dialect true statement)

section Statements

variable {dialect : Dialect} {strict : Bool} {depth : Nat} {query : Query} {statement : Statement}
  {grammar : Grammar} {tokens : List Located} {phrase : Bool → Phrase}

theorem SpellsStatement.legible (spells : SpellsStatement dialect statement phrase) :
    (phrase true).Legible dialect := by
  obtain ⟨token, _, starts⟩ := spells.starts
  obtain ⟨rest, same⟩ := starts true
  have clear := spells.clear true
  rw [same] at clear ⊢
  exact .apart clear

theorem SpellsStatement.heads (spells : SpellsStatement dialect statement phrase) (apart : Bool)
    (later : List (Option Token)) : (phrase apart).heads later ⊆ queryStarts.map some := by
  obtain ⟨token, among, starts⟩ := spells.starts
  obtain ⟨rest, same⟩ := starts apart
  rw [same, Phrase.heads_one_append]
  exact List.cons_subset.2 ⟨List.mem_map_of_mem among, List.nil_subset _⟩

theorem startsQuery_of_ahead (ahead : Ahead (queryStarts.map some) tokens) :
    startsQuery tokens.head? = true := by
  unfold startsQuery
  unfold Ahead at ahead
  generalize tokenOf tokens.head? = head at ahead
  simp only [queryStarts, List.map_cons, List.map_nil, List.mem_cons, List.not_mem_nil,
    or_false] at ahead
  rcases ahead with rfl | rfl | rfl <;> decide

/-- What starts a query starts no other statement. -/
theorem understands_statement {size budget level : Nat} {phrase : Phrase}
    (starts : phrase.heads queryEnds ⊆ queryStarts.map some)
    (reads : Understands size ⟨dialect, budget⟩ queryEnds (grammarOfDepth level).query phrase
      query) :
    Understands size ⟨dialect, budget + 1⟩ queryEnds (grammarOfDepth (level + 1)).statement phrase
      (.query query) := by
  refine .nested rfl ((reads.map Statement.query).congr fun tokens ahead _ => ?_)
  have others : ∀ word ∈ ["REPLACE", "COMMENT"], ∀ head ∈ queryStarts.map some,
      head.any (·.isKeyword word) = false := by decide
  have noReplacement : (pure (dialect == .sqlite) <&&> atKeyword "REPLACE") ⟨dialect, budget⟩ tokens
      = .ok (false, tokens) := by
    have absent : atKeyword "REPLACE" ⟨dialect, budget⟩ tokens = .ok (false, tokens) :=
      atKeyword_of_ne (others "REPLACE" (by decide) _ (starts ahead))
    cases dialect with
    | sqlite => exact absent
    | _ => rfl
  have noComment : (pure (dialect == .postgres) <&&> keyword "COMMENT") ⟨dialect, budget⟩ tokens
      = .ok (false, tokens) := by
    have absent : keyword "COMMENT" ⟨dialect, budget⟩ tokens = .ok (false, tokens) :=
      keyword_of_ne (others "COMMENT" (by decide) _ (starts ahead))
    cases dialect with
    | postgres => exact absent
    | _ => rfl
  refine (bind_of_ok dialect_eq).trans ?_
  rw [bind_of_ok noReplacement, if_neg Bool.false_ne_true]
  rw [bind_of_ok dialect_eq, bind_of_ok noComment, if_neg Bool.false_ne_true]
  rw [bind_of_ok peek_eq, if_pos (startsQuery_of_ahead (starts ahead))]

/-- A query is a statement where it leaves a level of nesting for this. -/
theorem spells_statement (fits : depth < nestingLimit)
    (spells : SpellsQuery dialect depth query phrase) :
    SpellsStatement dialect (.query query) phrase where
  clear := spells.clear
  starts := by
    obtain ⟨token, among, _, starts⟩ := spells.starts
    exact ⟨token, among, starts⟩
  text := spells.text
  reads := by
    intro size level apart enough
    obtain ⟨less, rfl⟩ : ∃ less, level = less + 1 := ⟨level - 1, by omega⟩
    refine understands_statement ?_ (spells.reads size less ⟨dialect, 49⟩ apart queryEnds rfl
      (by omega) (Nat.le_of_lt_succ fits) (List.Subset.refl _))
    obtain ⟨token, among, _, starts⟩ := spells.starts
    obtain ⟨rest, same⟩ := starts apart
    rw [same, Phrase.heads_one_append]
    exact List.cons_subset.2 ⟨List.mem_map_of_mem among, List.nil_subset _⟩

/-- Every plain statement is spelled by a phrase. -/
theorem IsStatement.written (plain : IsStatement dialect strict statement) :
    IsWrittenStatement dialect strict statement := by
  obtain ⟨fits, isQuery⟩ := plain
  obtain ⟨phrase, spells, parted⟩ := isQuery.written
  exact ⟨phrase, spells_statement fits spells, fun apart => ⟨(parted apart).1, fun uncut =>
    .query fits ((parted apart).2 uncut)⟩⟩

end Statements

/-! ## One statement after another -/

section Scripts

variable {dialect : Dialect} {phrases : Statement → Bool → Phrase} {first : Statement}
  {others : List Statement} {grammar : Grammar} {context : Context} {tokens : List Located}

end Scripts

end Querent.Sql.Plain
