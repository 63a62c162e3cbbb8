import Mathlib.Data.List.Basic
import Querent.Proofs.Sql.Grammar.Statement
import Querent.Proofs.Sql.Verdict
import Querent.Proofs.Sql.Wording.Closed

/-!
# Words that canonical texts mention

The gateway looks for forbidden words in a text as it is given, and not in its canonical form.  An
escape in a quoted text is decoded when the text is read, and a list of partitions is printed right
after the name of its table, so the two need not mention the same words.  Apart from these two cases
they do: the canonical form of a text without a forbidden word has none either.
-/

namespace Querent.Sql

variable {dialect : Dialect}

/-- Queries that are read from an innocent text without anything unprintable are innocent. -/
theorem innocent_of_readsAs {source : String} {statements : List Statement} {found : List Token}
    (reads : ReadsAs dialect source statements) (scanned : tokens dialect source = .ok found)
    (reprintable : Reprintable dialect found)
    (queries : ∀ statement ∈ statements, ∃ query, statement = .query query) :
    ∀ statement ∈ statements, Innocent statement.sql := by
  obtain ⟨_, allowed, parsed⟩ := reads
  have innocent : Innocent source := innocent_iff.2 (forbiddenWord?_eq_none_iff.2 allowed)
  have plain : ∀ located, locatedTokens dialect source = .ok located → Plain dialect located := by
    intro located read
    have same : found = located.map (·.token) := by
      rw [tokens, read] at scanned
      cases scanned
      rfl
    exact plain_of_locatedTokens read innocent (same ▸ reprintable)
  intro statement member
  obtain ⟨query, rfl⟩ := queries statement member
  exact queries_of_parseStatements (innocence dialect) parsed plain queries query member

/--
The canonical form of an accepted text mentions no forbidden word, if no decoded text does and no
list of partitions follows the name of a table.
-/
theorem accepted_unmentioned_of_reprintable {text canonical : String} {found : List Token}
    (accepted : validate dialect text = .ok canonical)
    (scanned : tokens dialect (trimmed text) = .ok found)
    (reprintable : Reprintable dialect found) : forbiddenWord? canonical = none := by
  obtain ⟨statements, reads, judged⟩ := exists_of_validate_eq_ok accepted
  obtain ⟨selects, rfl, _⟩ := judge_eq_ok_iff.1 judged
  have queries : ∀ statement ∈ statements, ∃ query, statement = .query query := by
    intro statement member
    obtain ⟨query, same, _⟩ := selects statement member
    exact ⟨query, same⟩
  have innocent := innocent_of_readsAs reads scanned reprintable queries
  exact innocent_iff.1 (innocent_intercalate (by decide) (List.forall_mem_map.2 innocent))

/-- A query with an escaped quote, which its canonical form doubles. -/
def escapedQuote : String :=
  "SELECT 'don\\'t' FROM t"

theorem accepted_escapedQuote_unmentioned :
    validate .mySql escapedQuote = .ok "SELECT 'don''t' FROM t" ∧
      ∃ found, tokens .mySql (trimmed escapedQuote) = .ok found ∧ Reprintable .mySql found ∧
        forbiddenWord? "SELECT 'don''t' FROM t" = none := by
  have accepted : validate .mySql escapedQuote = .ok "SELECT 'don''t' FROM t" := by
    decide +kernel
  have scanned : tokens .mySql (trimmed escapedQuote) = .ok
      [.word ⟨"SELECT", none, some "SELECT"⟩, .quoted .single "don't",
        .word ⟨"FROM", none, some "FROM"⟩, .word ⟨"t", none, none⟩] := by
    decide +kernel
  have reprintable : Reprintable .mySql
      [.word ⟨"SELECT", none, some "SELECT"⟩, .quoted .single "don't",
        .word ⟨"FROM", none, some "FROM"⟩, .word ⟨"t", none, none⟩] :=
    { decoded := by
        intro form value member _
        simp only [List.mem_cons, List.not_mem_nil, reduceCtorEq, false_or, or_false,
          Token.quoted.injEq] at member
        obtain ⟨rfl, rfl⟩ := member
        decide
      undivided := fun _ => by decide }
  exact ⟨accepted, _, scanned, reprintable,
    accepted_unmentioned_of_reprintable accepted scanned reprintable⟩

/-! ## Decoded words -/

/-- A query whose quoted text holds a forbidden word that is broken up by a backslash. -/
def brokenWord : String :=
  "SELECT E'D\\ROP'"

/-- There are texts that are let through in a form that mentions a forbidden word. -/
theorem not_forall_accepted_unmentioned :
    ¬ ∀ (dialect : Dialect) (text canonical : String), validate dialect text = .ok canonical →
      forbiddenWord? canonical = none := by
  intro unmentioned
  have accepted : validate .postgres brokenWord = .ok "SELECT E'DROP'" := by
    decide +kernel
  exact absurd (unmentioned _ _ _ accepted) (by decide +kernel)

end Querent.Sql
