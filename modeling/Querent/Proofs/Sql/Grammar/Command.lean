import Querent.Proofs.Sql.Ensures
import Querent.Sql.Grammar.Statement

/-!
# Commands are no queries

Every rule for a statement that starts with a keyword of its own ends in the text of a command, so
that a query among the statements of a text was read by the rule for queries.
-/

namespace Querent.Sql.Parser

/-- Whether a parser yields nothing but commands. -/
class Commands (parser : Parser Statement) : Prop where
  command : ∀ context tokens statement rest, parser context tokens = .ok (statement, rest) →
    ∃ kind text, statement = .command kind text

namespace Commands

instance pure (kind : CommandKind) (text : String) : Commands (pure (.command kind text)) := by
  refine ⟨?_⟩
  rintro context tokens _ _ ⟨⟩
  exact ⟨kind, text, rfl⟩

instance pure_other (text : String) : Commands (Pure.pure (other text)) :=
  pure .other text

instance throw (error : SyntaxError) : Commands (throw error) := by
  refine ⟨?_⟩
  rintro context tokens _ _ ⟨⟩

/-- A step whose value is known to satisfy a postcondition, and the steps after it. -/
theorem step {α : Type} {post : α → Prop} {first : Parser α} {next : α → Parser Statement}
    (firstly : ∀ context tokens value left, first context tokens = .ok (value, left) → post value)
    (last : ∀ value, post value → Commands (next value)) : Commands (first >>= next) := by
  refine ⟨fun context tokens statement rest parsed => ?_⟩
  obtain ⟨value, left, read, laterly⟩ := Parser.bind_eq_ok.1 parsed
  exact (last value (firstly context tokens value left read)).command context left statement rest
    laterly

/-- The last step decides. -/
instance bind {α : Type} {first : Parser α} {next : α → Parser Statement}
    [last : ∀ value, Commands (next value)] : Commands (first >>= next) :=
  step (fun _ _ _ _ _ => trivial) fun value _ => last value

/-- A step that only gives a value to those after it. -/
theorem given {α : Type} {value : α} {next : α → Parser Statement}
    (later : Commands (next value)) : Commands (Pure.pure value >>= next) := by
  have known (context : Context) (tokens : List Located) (found : α) (left : List Located)
      (read : (Pure.pure value : Parser α) context tokens = .ok (found, left)) : found = value := by
    cases read
    rfl
  exact step known fun found same => same ▸ later

instance map {kind : CommandKind} {rule : Parser String} :
    Commands (Statement.command kind <$> rule) :=
  inferInstanceAs (Commands (rule >>= fun text => Pure.pure (.command kind text)))

instance ite {condition : Prop} [Decidable condition] {first second : Parser Statement}
    [yes : Commands first] [no : Commands second] :
    Commands (if condition then first else second) := by
  split
  · exact yes
  · exact no

instance expectedAt (what : String) (found : Option Located) : Commands (expectedAt what found) :=
  throw _

instance expected (what : String) : Commands (expected what) :=
  bind

end Commands

instance : Commands killRest := by
  unfold killRest
  infer_instance

section Rules

variable (grammar : Grammar)

instance (word : Keyword) : Commands (explainRest grammar word) := by
  unfold explainRest
  iterate 5 refine @Commands.bind _ _ _ fun _ => ?_
  split <;> infer_instance

instance : Commands (analyzeRest grammar) := by
  unfold analyzeRest
  infer_instance

instance : Commands (truncateRest grammar) := by
  unfold truncateRest
  infer_instance

instance : Commands (attachRest grammar) := by
  unfold attachRest
  infer_instance

instance : Commands repairRest := by
  unfold repairRest
  infer_instance

instance : Commands (cacheRest grammar) := by
  unfold cacheRest
  refine @Commands.bind _ _ _ fun unflagged => ?_
  extract_lets flagged
  have (flag : Option QualifiedName) : Commands (flagged flag) := by
    refine @Commands.bind _ _ _ fun table => @Commands.ite _ _ _ _ ?_ inferInstance
    refine @Commands.bind _ _ _ fun name => @Commands.bind _ _ _ fun optional => ?_
    extract_lets cached
    have (options : String) : Commands (cached options) := by
      refine @Commands.bind _ _ _ fun found => ?_
      extract_lets finished
      split <;> infer_instance
    clear_value cached
    infer_instance
  clear_value flagged
  infer_instance

instance : Commands uncacheRest := by
  unfold uncacheRest
  infer_instance

instance : Commands discardRest := by
  unfold discardRest
  infer_instance

instance : Commands (declareRest grammar) := by
  unfold declareRest
  iterate 4 refine @Commands.bind _ _ _ fun _ => ?_
  extract_lets scrolled
  have (scroll : String) : Commands (scrolled scroll) := by
    iterate 2 refine @Commands.bind _ _ _ fun _ => ?_
    extract_lets held
    have (done : Unit) : Commands (held done) := by
      unfold held
      infer_instance
    clear_value held
    infer_instance
  clear_value scrolled
  infer_instance

instance : Commands fetchStatement := by
  unfold fetchStatement
  infer_instance

instance : Commands (deleteRest grammar) := by
  unfold deleteRest
  infer_instance

instance : Commands (insertRest grammar) := by
  unfold insertRest directoryRest tableInsertion
  infer_instance

instance : Commands (updateRest grammar) := by
  unfold updateRest
  infer_instance

instance : Commands (mergeRest grammar) := by
  unfold mergeRest
  infer_instance

instance : Commands (alterRest grammar) := by
  unfold alterRest
  refine @Commands.bind _ _ _ fun word => ?_
  split <;> infer_instance

instance : Commands (dropRest grammar) := by
  unfold dropRest dropFunction
  iterate 2 refine @Commands.bind _ _ _ fun _ => ?_
  split <;> infer_instance

instance : Commands (createRest grammar) := by
  unfold createRest
  iterate 6 refine @Commands.bind _ _ _ fun _ => ?_
  extract_lets temporary scope creation ddl other
  refine @Commands.bind _ _ _ fun start => ?_
  extract_lets unknown
  have (rule : Parser String) : Commands (ddl rule) := .map
  have (rule : Parser String) : Commands (other rule) := .map
  have : Commands unknown := .bind
  clear_value ddl other unknown
  iterate 2 refine @Commands.bind _ _ _ fun _ => @Commands.ite _ _ _ _ inferInstance ?_
  refine @Commands.bind _ _ _ fun function => @Commands.ite _ _ _ _ ?_ ?_
  · refine @Commands.bind _ _ _ fun dialect => ?_
    split <;> infer_instance
  refine @Commands.bind _ _ _ fun macros => @Commands.ite _ _ _ _ inferInstance ?_
  refine @Commands.ite _ _ _ _ inferInstance ?_
  iterate 9 refine @Commands.bind _ _ _ fun _ => @Commands.ite _ _ _ _ inferInstance ?_
  infer_instance

instance : Commands (copyRest grammar) := by
  unfold copyRest
  refine @Commands.bind _ _ _ ?_
  rintro ⟨source, isQuery⟩
  refine @Commands.bind _ _ _ fun word => ?_
  extract_lets directed
  have (direction : Keyword) : Commands (directed direction) := by
    refine @Commands.ite _ _ _ _ inferInstance ?_
    refine @Commands.bind _ _ _ fun place => ?_
    extract_lets targeted
    have (target : String) : Commands (targeted target) := by
      iterate 2 refine @Commands.bind _ _ _ fun _ => ?_
      extract_lets chosen
      have (options : List String) : Commands (chosen options) := by
        refine @Commands.bind _ _ _ fun legacy => ?_
        extract_lets emptied
        have (done : Unit) : Commands (emptied done) := .pure_other _
        clear_value emptied
        infer_instance
      clear_value chosen
      infer_instance
    clear_value targeted
    split <;> infer_instance
  clear_value directed
  split <;> infer_instance

instance : Commands closeRest := by
  unfold closeRest
  infer_instance

instance (modifier : Option Keyword) : Commands (setRole modifier) := by
  unfold setRole
  infer_instance

instance (modifier : Option Keyword) (name : QualifiedName) :
    Commands (setVariable grammar modifier name) := by
  unfold setVariable
  infer_instance

instance : Commands (showRest grammar) := by
  unfold showRest showColumns
  iterate 2 refine @Commands.bind _ _ _ fun _ => ?_
  extract_lets words columned tabled
  have (table : List Ident) : Commands (columned table) := .bind
  have (database : Option Ident) : Commands (tabled database) := .bind
  clear_value columned tabled
  iterate 3 refine @Commands.bind _ _ _ fun _ => @Commands.ite _ _ _ _ inferInstance ?_
  infer_instance

instance : Commands grantRest := by
  unfold grantRest
  infer_instance

instance : Commands revokeRest := by
  unfold revokeRest
  infer_instance

instance : Commands (assertRest grammar) := by
  unfold assertRest
  infer_instance

instance : Commands deallocateRest := by
  unfold deallocateRest
  infer_instance

instance : Commands (executeRest grammar) := by
  unfold executeRest
  infer_instance

instance : Commands (prepareRest grammar) := by
  unfold prepareRest
  infer_instance

instance : Commands pragmaRest := by
  unfold pragmaRest
  infer_instance

instance : Commands commentRest := by
  unfold commentRest
  iterate 3 refine @Commands.bind _ _ _ fun _ => ?_
  extract_lets kinds
  have (kind : String) : Commands (kinds kind) := by
    unfold kinds
    infer_instance
  clear_value kinds
  split <;> infer_instance

/-- What a role is set to is the text of a command, also where it is only attempted. -/
theorem command_of_attempt {rule : Parser Statement} [commands : Commands rule]
    (context : Context) (tokens : List Located) (found : Option Statement) (rest : List Located)
    (parsed : attempt rule context tokens = .ok (found, rest)) :
    ∀ statement ∈ found, ∃ kind text, statement = .command kind text := by
  unfold attempt at parsed
  split at parsed
  next statement left succeeded =>
    cases parsed
    rintro _ ⟨⟩
    exact commands.command context tokens statement rest succeeded
  next =>
    cases parsed
    simp

instance : Commands (setRest grammar) := by
  unfold setRest
  refine @Commands.bind _ _ _ fun modifier => ?_
  extract_lets named chosen
  have (name : QualifiedName) : Commands (named name) :=
    inferInstanceAs (Commands (setVariable grammar modifier name))
  clear_value named
  have sets : ∀ role : Option Statement,
      (∀ statement ∈ role, ∃ kind text, statement = .command kind text) →
      Commands (chosen role) := by
    intro role command
    unfold chosen
    split
    next statement =>
      obtain ⟨kind, text, rfl⟩ := command statement rfl
      infer_instance
    next => infer_instance
  clear_value chosen
  have none := Commands.given (sets none (by simp))
  refine @Commands.ite _ _ _ _ .bind ?_
  exact .step command_of_attempt sets

/-- Every rule for a statement after its first keyword yields commands. -/
theorem commands_of_statementAfter {word : Keyword} {rule : Parser Statement}
    (known : statementAfter grammar word = some rule) : Commands rule := by
  unfold statementAfter at known
  split at known
  all_goals first | contradiction | (cases known; infer_instance)

end Rules

end Querent.Sql.Parser
