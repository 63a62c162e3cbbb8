import Querent.Proofs.Sql.Spelling
import Querent.Proofs.Sql.Steadiness
import Querent.Proofs.Sql.Verdict

/-!
# What accepted queries write

The gateway keeps every statement out that inserts or changes rows, at any depth: a body of this
sort starts with a forbidden word, and the text mentions none.  It also keeps a selection with a
target out of the parts of a query.  A *hidden* body, in a derived table or in an expression, is out
of its sight, and a target there is the one way in which an accepted query writes.
-/

namespace Querent.Sql

/-- The bodies in a statement, at any depth.  A command is not taken apart. -/
def Statement.bodies : Statement → List Body
  | query q => q.bodies
  | command _ _ => []

/-- Whether some body in a statement writes. -/
def Statement.writes (statement : Statement) : Bool :=
  statement.bodies.any Body.writes

/-- Where a text mentions no forbidden word, its queries insert and change no rows at any depth. -/
theorem steady_of_readsAs {dialect : Dialect} {source : String} {statements : List Statement}
    (reads : ReadsAs dialect source statements)
    (queries : ∀ statement ∈ statements, ∃ query, statement = .query query) :
    ∀ query, .query query ∈ statements → Steady query.bodies := by
  obtain ⟨_, allowed, parsed⟩ := reads
  exact queries_of_parseStatements steadiness parsed
    (fun _ scanned => harmless_of_locatedTokens scanned allowed) queries

/-- A query of steady bodies that is built from plain selections writes where a target is hidden. -/
theorem Statement.writes_query_iff {query : Query} (steady : Steady query.bodies)
    (plain : ∀ part ∈ query.parts, part.isPlainSelect = true) :
    (Statement.query query).writes = true ↔
      ∃ selection, .select selection ∈ query.hidden ∧ selection.target.isSome = true := by
  rw [Statement.writes, Statement.bodies, List.any_eq_true]
  constructor
  · rintro ⟨body, member, writes⟩
    have calm : body.changesRows = false := steady body member
    rcases (query.mem_bodies_iff body).1 member with part | hidden
    · rw [Body.writes_eq_false_of_isPlainSelect (plain body part)] at writes
      cases writes
    · have fills : body.fillsTable = true := by
        simpa [Body.writes, calm] using writes
      cases body with
      | select selection => exact ⟨selection, hidden, fills⟩
      | _ => cases fills
  · rintro ⟨selection, hidden, target⟩
    refine ⟨.select selection, (query.mem_bodies_iff _).2 (.inr hidden), ?_⟩
    simp [Body.writes, Body.fillsTable, target]

/--
Every statement of an accepted text is a query of which no body, at any depth, inserts or changes
rows, and of which no part writes.  It writes exactly when it hides a selection with a target.
-/
theorem accepted_writes_iff_hides_target {dialect : Dialect} {text canonical : String}
    (accepted : validate dialect text = .ok canonical) :
    ∃ statements, parseStatements dialect (trimmed text) = .ok statements ∧
      ∀ statement ∈ statements, ∃ query, statement = .query query ∧
        (∀ body ∈ query.bodies, body.changesRows = false) ∧
        (∀ part ∈ query.parts, part.writes = false) ∧
        (statement.writes = true ↔
          ∃ selection, .select selection ∈ query.hidden ∧ selection.target.isSome = true) := by
  obtain ⟨statements, reads, judged⟩ := exists_of_validate_eq_ok accepted
  obtain ⟨selects, _, _⟩ := judge_eq_ok_iff.1 judged
  have queries : ∀ statement ∈ statements, ∃ query, statement = .query query := by
    intro statement member
    obtain ⟨query, same, _⟩ := selects statement member
    exact ⟨query, same⟩
  refine ⟨statements, reads.2.2, ?_⟩
  intro statement member
  obtain ⟨query, rfl, plain⟩ := selects statement member
  have steady : Steady query.bodies := steady_of_readsAs reads queries query member
  refine ⟨query, rfl, steady, ?_, Statement.writes_query_iff steady plain⟩
  intro part isPart
  exact Body.writes_eq_false_of_isPlainSelect (plain part isPart)

/-! ## A hidden target -/

/-- A query that fills a table from inside a derived table. -/
def derivedTarget : String :=
  "SELECT * FROM (SELECT a INTO t FROM b) AS x"

theorem validate_derivedTarget : validate .duckDb derivedTarget = .ok derivedTarget := by
  have verdict : (validate .duckDb derivedTarget).toOption = some derivedTarget := by
    decide +kernel
  cases known : validate .duckDb derivedTarget with
  | error rejection =>
      rw [known] at verdict
      cases verdict
  | ok canonical =>
      rw [known] at verdict
      cases verdict
      rfl

theorem writes_derivedTarget :
    ∃ statements, parseStatements .duckDb (trimmed derivedTarget) = .ok statements ∧
      ∃ statement ∈ statements, statement.writes = true := by
  have found : (parseStatements .duckDb (trimmed derivedTarget)).toOption.any
      (fun statements => statements.any Statement.writes) = true := by
    decide +kernel
  cases parsed : parseStatements .duckDb (trimmed derivedTarget) with
  | error error =>
      rw [parsed] at found
      cases found
  | ok statements =>
      rw [parsed] at found
      exact ⟨statements, rfl, List.any_eq_true.1 found⟩

theorem accepted_derivedTarget_hides_target :
    validate .duckDb derivedTarget = .ok derivedTarget ∧
      ∃ query selection, .select selection ∈ Query.hidden query ∧
        selection.target.isSome = true := by
  refine ⟨validate_derivedTarget, ?_⟩
  obtain ⟨statements, parsed, conditions⟩ :=
    accepted_writes_iff_hides_target validate_derivedTarget
  obtain ⟨others, parsed', statement, member, writes⟩ := writes_derivedTarget
  rw [parsed] at parsed'
  cases parsed'
  obtain ⟨query, _, _, _, hides⟩ := conditions statement member
  exact ⟨query, hides.1 writes⟩

/-- The gateway accepts texts that write. -/
theorem not_forall_accepted_writes_eq_false :
    ¬ ∀ (dialect : Dialect) (text canonical : String), validate dialect text = .ok canonical →
      ∀ statements, parseStatements dialect (trimmed text) = .ok statements →
        ∀ statement ∈ statements, statement.writes = false := by
  intro reads
  obtain ⟨statements, parsed, statement, member, writes⟩ := writes_derivedTarget
  have calm := reads .duckDb derivedTarget derivedTarget validate_derivedTarget statements parsed
    statement member
  rw [calm] at writes
  cases writes

end Querent.Sql
