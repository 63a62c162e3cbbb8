import Querent.Proofs.Sql.Grammar.Statement
import Querent.Proofs.Sql.Plain.Scripts
import Querent.Proofs.Sql.Stability

/-!
# Which plain queries are stable

The canonical text of plain queries is stable exactly when they are strict: no sign stands directly
before one that it would grow together with.  Where two signs meet, they open a comment or are read
as another sign, and no query is read of the text any more.
-/

namespace Querent.Sql.Plain

/-! ## Reading canonical texts -/

section Reading

variable {dialect : Dialect} {text : String} {located : List Located}

variable {phrases : Statement → Bool → Phrase} {first : Statement} {others : List Statement}

end Reading

/-! ## Strict queries -/

/-- The selection of some columns of a table whose rows are grouped. -/
def selectionOf (items : List SelectItem) (table : Ident) (groups : List Expr) : Body :=
  .select {
    distinctness := .all, distinctOn := [], top := none, topPercent := false, topTies := false
    items := items, target := none, sources := [⟨.table [table] [] false [] none [], []⟩]
    views := [], condition := none, groupAll := false, groupBy := groups, clusterBy := []
    distributeBy := [], sortBy := [], having := none, windowNames := [], windows := []
    qualify := none }

/-- The totals of the regions. -/
def totals : Query :=
  let amount : Expr := .call [⟨"SUM", none⟩] false false [.name ⟨"amount", none⟩] [] none none none
  let sums := selectionOf [.expression (.name ⟨"region", none⟩), .aliased amount ⟨"total", none⟩]
    ⟨"sales", none⟩ [.name ⟨"region", none⟩]
  { Query.ofBody (selectionOf [.wildcard none none [] none []] ⟨"totals", none⟩ []) with
    definitions := [⟨⟨⟨"totals", none⟩, []⟩, Query.ofBody sums, none⟩] }

end Querent.Sql.Plain
