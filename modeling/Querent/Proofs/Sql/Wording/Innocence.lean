import Querent.Proofs.Sql.Grammar.Trait
import Querent.Proofs.Sql.Wording.Tokens

/-!
# Innocence as a trait

A part of a query is innocent when what is printed of it is.  A part that follows another without a
break must start with one itself.
-/

namespace Querent.Sql

/-- Whether a key of a map is innocent, in single quotes and without them. -/
def Expr.InnocentKey (key : Expr) : Prop :=
  Innocent key.sql ∧ ∀ text, key = .literal (.quoted .single text) → Innocent text

theorem Expr.innocentKey_text {text : String} (innocent : Innocent text) :
    InnocentKey (.literal (.quoted .single text)) := by
  refine ⟨innocent_quoteText isBreak_singleQuote innocent, ?_⟩
  rintro _ ⟨⟩
  exact innocent

/-- What is printed without a forbidden word. -/
def innocence (dialect : Dialect) : Trait where
  tokens := Plain dialect
  token := Token.Clean
  text := Innocent
  name name := Innocent name.sql
  literal value := Innocent value.sql
  type type := Innocent type.sql
  operator operator := Innocent operator.sql
  expr e := Innocent e.sql
  key := Expr.InnocentKey
  order item := Innocent item.sql
  bound end' := Innocent end'.sql
  window window := Innocent window.sql
  partitions names := names = []
  relation relation := Innocent relation.sql
  join join := Clause join.sql
  source source := Innocent source.sql
  view view := Clause view.sql
  item item := Innocent item.sql
  selection selection := Innocent selection.sql
  body body := Innocent body.sql
  definition definition := Innocent definition.sql
  query query := Innocent query.sql

end Querent.Sql
