import Querent.Proofs.Sql.Faithful
import Querent.Proofs.Sql.ForbiddenWords
import Querent.Proofs.Sql.Parts

/-!
# Verdicts

What the gateway decides about a text, said without its stages.  A text is let through exactly when
it is not blank, mentions no forbidden word, holds statements that are all built from plain
selections alone, and does not lose a token when these are printed; the verdict is then the printed
statements.  In every other case the verdict names the first of these conditions that fails.
-/

namespace Querent.Sql

/-- Whether a statement is a query that is built from plain selections alone. -/
def Statement.Selects (statement : Statement) : Prop :=
  ∃ q, statement = .query q ∧ ∀ part ∈ q.parts, part.isPlainSelect = true

/--
Whether a statement is no selection but of a given kind: the kind of the command, or what the first
part of the query does that is no plain selection.
-/
def Statement.Offends (kind : StatementKind) : Statement → Prop
  | query q =>
    ∃ before part after, q.parts = before ++ part :: after ∧
      (∀ earlier ∈ before, earlier.isPlainSelect = true) ∧
      part.isPlainSelect = false ∧ part.offence = kind
  | command c _ => c.statementKind = kind

theorem Statement.kind_eq_select_iff {statement : Statement} :
    statement.kind = .select ↔ statement.Selects := by
  cases statement with
  | query query =>
      rw [Statement.kind, query.kind_eq_kindOfParts, kindOfParts_eq_select_iff]
      simp [Statement.Selects]
  | command command text =>
      simp [Statement.kind, Statement.Selects, command.statementKind_ne_select]

theorem Statement.isSelect_iff {statement : Statement} :
    statement.isSelect = true ↔ statement.Selects := by
  rw [← Statement.kind_eq_select_iff]
  simp [Statement.isSelect]

theorem Statement.offends_iff {statement : Statement} {kind : StatementKind} :
    statement.Offends kind ↔ statement.kind = kind ∧ kind ≠ .select := by
  cases statement with
  | query query =>
      rw [Statement.kind, query.kind_eq_kindOfParts]
      constructor
      · intro offends
        have ⟨_, part, _, _, _, _, sameKind⟩ := offends
        have notSelect : kind ≠ .select := sameKind ▸ part.offence_ne_select
        exact ⟨(kindOfParts_eq_iff notSelect).2 offends, notSelect⟩
      · rintro ⟨sameKind, notSelect⟩
        exact (kindOfParts_eq_iff notSelect).1 sameKind
  | command command text =>
      constructor
      · rintro rfl
        exact ⟨rfl, command.statementKind_ne_select⟩
      · rintro ⟨sameKind, _⟩
        exact sameKind

/-- Whether the first of several statements that is no selection is of a given kind. -/
def FirstOffends (kind : StatementKind) (statements : List Statement) : Prop :=
  ∃ before statement after, statements = before ++ statement :: after ∧
    (∀ earlier ∈ before, earlier.Selects) ∧ statement.Offends kind

/-- Whether a text has the significant tokens of another, each as often. -/
def Keeps (dialect : Dialect) (source canonical : String) : Prop :=
  ∃ before after, significantTokens dialect source = some before ∧
    significantTokens dialect canonical = some after ∧ before.Perm after

/-! ## The verdict on statements -/

theorem judge_eq_error {dialect : Dialect} {source : String} {statements : List Statement}
    {rejection : Rejection} (rejected : judge dialect source statements = .error rejection) :
    (∃ kind, rejection = .notSelect kind) ∨ rejection = .unfaithful := by
  unfold judge at rejected
  split at rejected
  · rename_i statement found
    cases rejected
    exact Or.inl ⟨statement.kind, rfl⟩
  · simp only at rejected
    split at rejected
    · cases rejected
    · cases rejected
      exact Or.inr rfl

theorem judge_eq_notSelect_iff {dialect : Dialect} {source : String}
    {statements : List Statement} {kind : StatementKind} :
    judge dialect source statements = .error (.notSelect kind) ↔ FirstOffends kind statements := by
  unfold judge
  split
  · rename_i statement found
    obtain ⟨offending, before, after, split, selecting⟩ :=
      List.find?_eq_some_iff_append.1 found
    have notSelect : statement.kind ≠ .select := by
      simpa [Statement.isSelect] using offending
    have selects : ∀ earlier ∈ before, earlier.Selects := fun earlier member =>
      Statement.isSelect_iff.1 (by simpa using selecting earlier member)
    simp only [Except.error.injEq, Rejection.notSelect.injEq]
    constructor
    · rintro rfl
      exact ⟨before, statement, after, split, selects,
        Statement.offends_iff.2 ⟨rfl, notSelect⟩⟩
    · rintro ⟨before', statement', after', split', selects', offends'⟩
      obtain ⟨sameKind, notSelect'⟩ := Statement.offends_iff.1 offends'
      have found' : statements.find? (fun statement => !statement.isSelect) = some statement' := by
        refine List.find?_eq_some_iff_append.2 ⟨?_, before', after', split', fun earlier member => ?_⟩
        · simpa [Statement.isSelect, sameKind] using notSelect'
        · simpa using Statement.isSelect_iff.2 (selects' earlier member)
      rw [found] at found'
      cases found'
      exact sameKind
  · rename_i absent
    constructor
    · intro verdict
      simp only at verdict
      split at verdict <;> cases verdict
    · rintro ⟨before, statement, after, rfl, _, offends⟩
      obtain ⟨sameKind, notSelect⟩ := Statement.offends_iff.1 offends
      have isSelect := List.find?_eq_none.1 absent statement (by simp)
      simp [Statement.isSelect, sameKind, notSelect] at isSelect

theorem find?_isSelect_eq_none_iff {statements : List Statement} :
    statements.find? (fun statement => !statement.isSelect) = none ↔
      ∀ statement ∈ statements, statement.Selects := by
  simp [Statement.isSelect_iff]

theorem judge_eq_ok_iff {dialect : Dialect} {source canonical : String}
    {statements : List Statement} :
    judge dialect source statements = .ok canonical ↔
      (∀ statement ∈ statements, statement.Selects) ∧
        canonical = "; ".intercalate (statements.map Statement.sql) ∧
        Keeps dialect source canonical := by
  unfold judge
  split
  · rename_i statement found
    constructor
    · intro verdict
      cases verdict
    · rintro ⟨selects, _⟩
      rw [find?_isSelect_eq_none_iff.2 selects] at found
      cases found
  · rename_i absent
    rw [find?_isSelect_eq_none_iff] at absent
    constructor
    · intro verdict
      simp only at verdict
      split at verdict
      · rename_i faithful
        cases verdict
        exact ⟨absent, rfl, isFaithful_iff.1 faithful⟩
      · cases verdict
    · rintro ⟨_, rfl, keeps⟩
      exact if_pos (isFaithful_iff.2 keeps)

theorem judge_eq_unfaithful_iff {dialect : Dialect} {source : String}
    {statements : List Statement} :
    judge dialect source statements = .error .unfaithful ↔
      (∀ statement ∈ statements, statement.Selects) ∧
        ¬ Keeps dialect source ("; ".intercalate (statements.map Statement.sql)) := by
  unfold judge
  split
  · rename_i statement found
    constructor
    · intro verdict
      cases verdict
    · rintro ⟨selects, _⟩
      rw [find?_isSelect_eq_none_iff.2 selects] at found
      cases found
  · rename_i absent
    rw [find?_isSelect_eq_none_iff] at absent
    constructor
    · intro verdict
      simp only at verdict
      split at verdict
      · cases verdict
      · rename_i unfaithful
        exact ⟨absent, fun keeps => unfaithful (isFaithful_iff.2 keeps)⟩
    · rintro ⟨_, loses⟩
      exact if_neg fun faithful => loses (isFaithful_iff.1 faithful)

/-! ## The verdict on a text -/

/-- Whether a text passes the first stages and is read as statements. -/
def ReadsAs (dialect : Dialect) (source : String) (statements : List Statement) : Prop :=
  source ≠ "" ∧ (∀ word ∈ forbiddenWords, ¬ Mentions source word) ∧
    parseStatements dialect source = .ok statements

/-- Why a text is rejected: a rule for each stage, which takes that all earlier stages passed. -/
inductive RejectedFor (dialect : Dialect) (source : String) : Rejection → Prop where
  | emptyQuery (empty : source = "") : RejectedFor dialect source .emptyQuery
  | forbidden {word : String} (nonempty : source ≠ "") (first : FirstForbidden source word) :
      RejectedFor dialect source (.forbidden word)
  | syntactic {error : ParseError} (nonempty : source ≠ "")
      (allowed : ∀ word ∈ forbiddenWords, ¬ Mentions source word)
      (failed : parseStatements dialect source = .error error) :
      RejectedFor dialect source (.syntactic error)
  | notSelect {statements : List Statement} {kind : StatementKind}
      (reads : ReadsAs dialect source statements) (offends : FirstOffends kind statements) :
      RejectedFor dialect source (.notSelect kind)
  | unfaithful {statements : List Statement} (reads : ReadsAs dialect source statements)
      (selects : ∀ statement ∈ statements, statement.Selects)
      (loses : ¬ Keeps dialect source ("; ".intercalate (statements.map Statement.sql))) :
      RejectedFor dialect source .unfaithful

/-- A text that is read as statements gets the verdict on these. -/
theorem validate_of_readsAs {dialect : Dialect} {text : String} {statements : List Statement}
    (reads : ReadsAs dialect (trimmed text) statements) :
    validate dialect text = judge dialect (trimmed text) statements := by
  obtain ⟨nonempty, allowed, parsed⟩ := reads
  unfold validate
  rw [if_neg (by simpa using nonempty), forbiddenWord?_eq_none_iff.2 allowed]
  simp only [parsed]

/-- A text is rejected before it is judged, or it gets the verdict on its statements. -/
theorem validate_cases (dialect : Dialect) (text : String) :
    (∃ rejection, RejectedFor dialect (trimmed text) rejection ∧
      validate dialect text = .error rejection) ∨
    (∃ statements, ReadsAs dialect (trimmed text) statements ∧
      validate dialect text = judge dialect (trimmed text) statements) := by
  by_cases empty : trimmed text = ""
  · left
    exact ⟨.emptyQuery, .emptyQuery empty, by simp [validate, empty]⟩
  · cases forbidden : forbiddenWord? (trimmed text) with
    | some word =>
        left
        exact ⟨.forbidden word, .forbidden empty (forbiddenWord?_eq_some_iff.1 forbidden),
          by simp [validate, empty, forbidden]⟩
    | none =>
        have allowed := forbiddenWord?_eq_none_iff.1 forbidden
        cases parsed : parseStatements dialect (trimmed text) with
        | error error =>
            left
            exact ⟨.syntactic error, .syntactic empty allowed parsed,
              by simp [validate, empty, forbidden, parsed]⟩
        | ok statements =>
            right
            have reads : ReadsAs dialect (trimmed text) statements := ⟨empty, allowed, parsed⟩
            exact ⟨statements, reads, validate_of_readsAs reads⟩

theorem exists_of_validate_eq_ok {dialect : Dialect} {text canonical : String}
    (accepted : validate dialect text = .ok canonical) :
    ∃ statements, ReadsAs dialect (trimmed text) statements ∧
      judge dialect (trimmed text) statements = .ok canonical := by
  rcases validate_cases dialect text with ⟨rejection, _, verdict⟩ | ⟨statements, reads, verdict⟩
  · rw [verdict] at accepted
    cases accepted
  · exact ⟨statements, reads, verdict ▸ accepted⟩

theorem rejectedFor_of_validate_eq_error {dialect : Dialect} {text : String}
    {rejection : Rejection} (rejected : validate dialect text = .error rejection) :
    RejectedFor dialect (trimmed text) rejection := by
  rcases validate_cases dialect text with ⟨other, rule, verdict⟩ | ⟨statements, reads, verdict⟩
  · rw [verdict] at rejected
    cases rejected
    exact rule
  · rw [verdict] at rejected
    rcases judge_eq_error rejected with ⟨kind, rfl⟩ | rfl
    · exact .notSelect reads (judge_eq_notSelect_iff.1 rejected)
    · obtain ⟨selects, loses⟩ := judge_eq_unfaithful_iff.1 rejected
      exact .unfaithful reads selects loses

theorem validate_eq_error_of_rejectedFor {dialect : Dialect} {text : String}
    {rejection : Rejection} (rule : RejectedFor dialect (trimmed text) rejection) :
    validate dialect text = .error rejection := by
  cases rule with
  | emptyQuery empty => simp [validate, empty]
  | forbidden nonempty first =>
      simp [validate, nonempty, forbiddenWord?_eq_some_iff.2 first]
  | syntactic nonempty allowed failed =>
      simp [validate, nonempty, forbiddenWord?_eq_none_iff.2 allowed, failed]
  | notSelect reads offends =>
      rw [validate_of_readsAs reads]
      exact judge_eq_notSelect_iff.2 offends
  | unfaithful reads selects loses =>
      rw [validate_of_readsAs reads]
      exact judge_eq_unfaithful_iff.2 ⟨selects, loses⟩

/--
The verdict on every text.  A text is let through in exactly its canonical form, and exactly when
all its conditions hold; otherwise the rejection is that of the first condition that fails.
-/
theorem validate_eq_ok_iff_and_eq_error_iff (dialect : Dialect) (text : String) :
    (∀ canonical, validate dialect text = .ok canonical ↔
      trimmed text ≠ "" ∧ (∀ word ∈ forbiddenWords, ¬ Mentions (trimmed text) word) ∧
        ∃ statements, parseStatements dialect (trimmed text) = .ok statements ∧
          (∀ statement ∈ statements, ∃ q, statement = .query q ∧
            ∀ part ∈ q.parts, part.isPlainSelect = true) ∧
          canonical = "; ".intercalate (statements.map Statement.sql) ∧
          Keeps dialect (trimmed text) canonical) ∧
    (∀ rejection, validate dialect text = .error rejection ↔
      RejectedFor dialect (trimmed text) rejection) := by
  refine ⟨fun canonical => ⟨fun accepted => ?_, ?_⟩, fun rejection =>
    ⟨rejectedFor_of_validate_eq_error, validate_eq_error_of_rejectedFor⟩⟩
  · obtain ⟨statements, ⟨nonempty, allowed, parsed⟩, judged⟩ := exists_of_validate_eq_ok accepted
    exact ⟨nonempty, allowed, statements, parsed, judge_eq_ok_iff.1 judged⟩
  · rintro ⟨nonempty, allowed, statements, parsed, conditions⟩
    rw [validate_of_readsAs ⟨nonempty, allowed, parsed⟩]
    exact judge_eq_ok_iff.2 conditions

end Querent.Sql
