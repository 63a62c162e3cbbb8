import Querent.Proofs.Sql.Grammar.Command
import Querent.Proofs.Sql.Grammar.Selection

/-!
# Queries among statements have a trait

The rules of every depth read parts with a closed trait, by induction on the depth.  So does every
statement of a list of tokens that consists of queries only: after a command it would not be known
what the tokens are like, for a command may drop the rest of them.
-/

namespace Querent.Sql

open Querent.Sql.Parser

variable {dialect : Dialect} {trait : Trait} [closed : trait.Closed dialect]

/-- What is known about the rules of every depth. -/
instance rules_grammarOfDepth (depth : Nat) : trait.Rules dialect (grammarOfDepth depth) := by
  induction depth with
  | zero =>
      exact
        { expr := .throw _
          operand := fun _ => .throw _
          type := .throw _
          query := .throw _
          body := fun _ => .throw _
          relation := .throw _
          source := .throw _ }
  | succ depth ih =>
      exact
        { expr := ensures_nested (ensures_operandRule 0)
          operand := ensures_operandRule
          type := ensures_typeRule ih.type
          query := ensures_queryRule _ _
          body := ensures_bodyRule
          relation := ensures_relationRule
          source := ensures_sourceRule }

/-- Whether every query that a parser reads has a trait, and so have the tokens that it leaves. -/
def Admits (dialect : Dialect) (trait : Trait) (parser : Parser Statement) : Prop :=
  ∀ context, context.dialect = dialect → ∀ tokens, trait.tokens tokens → ∀ query rest,
    parser context tokens = .ok (.query query, rest) → trait.query query ∧ trait.tokens rest

namespace Admits

omit closed in
theorem of_commands {parser : Parser Statement} (commands : Commands parser) :
    Admits dialect trait parser := by
  intro context same tokens isSafe query rest parsed
  obtain ⟨kind, text, ⟨⟩⟩ := commands.command context tokens _ rest parsed

theorem skip {α : Type} {first : Parser α} [reads : Reads first] {next : α → Parser Statement}
    (later : ∀ value, Admits dialect trait (next value)) :
    Admits dialect trait (first >>= next) := by
  intro context same tokens isSafe query rest parsed
  obtain ⟨value, left, firstly, laterly⟩ := bind_eq_ok.1 parsed
  obtain ⟨-, safeLeft⟩ :=
    reads.ensures dialect trait.tokens context same tokens isSafe value left firstly
  exact later value context same left safeLeft query rest laterly

omit closed in
theorem ite {condition : Prop} [Decidable condition] {first second : Parser Statement}
    (yes : Admits dialect trait first) (no : Admits dialect trait second) :
    Admits dialect trait (if condition then first else second) := by
  split
  · exact yes
  · exact no

omit closed in
theorem nested {parser : Parser Statement} (admits : Admits dialect trait parser) :
    Admits dialect trait (Parser.nested parser) := by
  intro context same tokens isSafe query rest parsed
  unfold Parser.nested at parsed
  split at parsed
  · cases parsed
  next budget _ =>
    exact admits { context with budget := budget } same tokens isSafe query rest parsed

end Admits

theorem admits_statementRule (grammar : Grammar) [rules : trait.Rules dialect grammar] :
    Admits dialect trait (statementRule grammar) := by
  refine .nested (.skip fun known => .skip fun replaces => ?_)
  refine .ite (.of_commands inferInstance) (.skip fun known => .skip fun comments => ?_)
  refine .ite (.of_commands inferInstance) (.skip fun found => .ite ?_ (.skip fun _ => ?_))
  · intro context same tokens isSafe query rest parsed
    have steps : (grammar.query >>= fun query => pure (.query query) : Parser Statement)
        context tokens = .ok (.query query, rest) := parsed
    obtain ⟨read, left, queried, ⟨⟩⟩ := bind_eq_ok.1 steps
    exact rules.query context same tokens isSafe query rest queried
  · refine .of_commands ?_
    split
    next rule known =>
      obtain ⟨word, -, starts⟩ := Option.bind_eq_some_iff.1 known
      exact commands_of_statementAfter grammar starts
    next => infer_instance

theorem admits_statement (depth : Nat) :
    Admits dialect trait (grammarOfDepth depth).statement := by
  cases depth with
  | zero => exact .of_commands (.throw _)
  | succ depth => exact admits_statementRule (grammarOfDepth depth)

/-- Wherever all statements of tokens with a trait are queries, these have the trait as well. -/
theorem queries_of_statementsUpTo {grammar : Grammar}
    (admits : Admits dialect trait grammar.statement) (bound : Nat) (delimited : Bool)
    {context : Context} (same : context.dialect = dialect) {tokens rest : List Located}
    {statements : List Statement} (isSafe : trait.tokens tokens)
    (parsed : statementsUpTo grammar bound delimited context tokens = .ok (statements, rest))
    (queries : ∀ statement ∈ statements, ∃ query, statement = .query query) :
    ∀ query, .query query ∈ statements → trait.query query := by
  induction bound generalizing delimited tokens statements with
  | zero =>
      cases parsed
      simp
  | succ bound ih =>
      have keeps {α : Type} {parser : Parser α} [reads : Reads parser] {tokens left : List Located}
          {value : α} (isSafe : trait.tokens tokens)
          (read : parser context tokens = .ok (value, left)) : trait.tokens left :=
        (reads.ensures dialect trait.tokens context same tokens isSafe value left read).2
      unfold statementsUpTo at parsed
      obtain ⟨semicolon, left, read, later⟩ := bind_eq_ok.1 parsed
      have safeLeft := keeps isSafe read
      split at later
      · exact ih true safeLeft later queries
      obtain ⟨found, ahead, peeked, last⟩ := bind_eq_ok.1 later
      have safeAhead := keeps safeLeft peeked
      cases found with
      | none =>
          cases last
          simp
      | some located =>
          simp only at last
          split at last
          · cases last
            simp
          split at last
          · obtain ⟨statement, afterStatement, first, others⟩ := bind_eq_ok.1 last
            obtain ⟨following, _, remaining, ⟨⟩⟩ := bind_eq_ok.1 others
            obtain ⟨query, rfl⟩ := queries statement List.mem_cons_self
            obtain ⟨holds, safeAfter⟩ := admits context same ahead safeAhead query _ first
            have holdsFollowing := ih false safeAfter remaining fun statement member =>
              queries statement (List.mem_cons_of_mem _ member)
            intro other member
            rcases List.mem_cons.1 member with same | later
            · cases same
              exact holds
            · exact holdsFollowing other later
          · obtain ⟨_, _, peekedAgain, failed⟩ := bind_eq_ok.1 last
            cases failed

/-- Statements, of which there is one at least, are what the rules of some depth read from tokens. -/
theorem exists_tokens_of_parseStatements {source : String} {statements : List Statement}
    (parsed : parseStatements dialect source = .ok statements) :
    ∃ tokens rest depth bound context,
      locatedTokens dialect source = .ok tokens ∧ context.dialect = dialect ∧
        statementsUpTo (grammarOfDepth depth) bound true context tokens
          = .ok (statements, rest) ∧ statements ≠ [] := by
  unfold parseStatements at parsed
  cases scanned : locatedTokens dialect source with
  | error error =>
      rw [scanned] at parsed
      cases parsed
  | ok tokens =>
      rw [scanned] at parsed
      change ((statementsUpTo (grammarOfDepth (depthFor tokens.length)) (2 * tokens.length + 2) true
        ⟨dialect, nestingLimit⟩ tokens).mapError ParseError.syntactic >>= fun found =>
          if found.1.isEmpty = true then throw .noStatement else pure found.1) = _ at parsed
      cases read : statementsUpTo (grammarOfDepth (depthFor tokens.length))
          (2 * tokens.length + 2) true ⟨dialect, nestingLimit⟩ tokens with
      | error error =>
          rw [read] at parsed
          cases parsed
      | ok found =>
          obtain ⟨statements', rest⟩ := found
          rw [read] at parsed
          change (if statements'.isEmpty = true then .error .noStatement else .ok statements') =
            (.ok statements : Except ParseError _) at parsed
          split at parsed
          next => cases parsed
          next nonempty =>
            cases parsed
            exact ⟨tokens, rest, _, _, _, rfl, rfl, read, by simpa using nonempty⟩

variable (trait) in
/-- Where the tokens of a text have a trait and all its statements are queries, so have these. -/
theorem queries_of_parseStatements {source : String} {statements : List Statement}
    (parsed : parseStatements dialect source = .ok statements)
    (isSafe : ∀ tokens, locatedTokens dialect source = .ok tokens → trait.tokens tokens)
    (queries : ∀ statement ∈ statements, ∃ query, statement = .query query) :
    ∀ query, .query query ∈ statements → trait.query query := by
  obtain ⟨tokens, rest, depth, bound, context, scanned, same, read, -⟩ :=
    exists_tokens_of_parseStatements parsed
  exact queries_of_statementsUpTo (admits_statement depth) bound true same (isSafe tokens scanned)
    read queries

end Querent.Sql
