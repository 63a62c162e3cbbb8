import Querent.Text.Blank
import Querent.Text.Case
import Querent.Text.Fold
import Querent.Text.Word

/-!
# Corrections

Advice on a query that failed, drawn from the wording of the error and from one property of the
query: whether it joins tables more often than it states how.  Each detector adds its tips in a fixed
order; when none fires, general advice is given.
-/

namespace Querent.Sql

/-- Whether an error in small letters states that the syntax is wrong. -/
def reportsBadSyntax (error : List Char) : Bool :=
  Text.occursIn "syntax error".toList error

/-- Whether an error in small letters states that a table is missing. -/
def reportsMissingTable (error : List Char) : Bool :=
  let mentions (text : String) : Bool := Text.occursIn text.toList error
  mentions "no such table" ||
    ((mentions "table" || mentions "relation") && (mentions "does not exist" || mentions "not found"))

/-- Whether an error in small letters states that a column is missing. -/
def reportsMissingColumn (error : List Char) : Bool :=
  let mentions (text : String) : Bool := Text.occursIn text.toList error
  mentions "no such column" || mentions "referenced column" || (mentions "column" && mentions "does not exist")

/-- Whether an error in small letters states that a name is ambiguous. -/
def reportsAmbiguous (error : List Char) : Bool :=
  Text.occursIn "ambiguous".toList error

/-- Whether a run of characters is one of the words in any letter case. -/
def isOneOf (words : List String) (run : List Char) : Bool :=
  words.contains (String.ofList (Text.fold run))

/-- How often one of the words occurs in a text that was cut into runs. -/
def wordCount (words : List String) (runs : List (List Char)) : Nat :=
  runs.countP (isOneOf words)

/-- How often a join that needs no condition occurs in a text that was cut into runs. -/
def unconditionedJoins : List (List Char) → Nat
  | first :: gap :: last :: rest =>
    let here := isOneOf ["cross", "natural"] first && gap.all Text.isBlank && isOneOf ["join"] last
    unconditionedJoins (gap :: last :: rest) + if here then 1 else 0
  | _ => 0

/-- Whether a query joins tables more often than it states how. -/
def lacksJoinCondition (query : String) : Bool :=
  let runs := Text.runs query.toList
  wordCount ["join"] runs > unconditionedJoins runs + wordCount ["on", "using"] runs

/-- The tips that are drawn from the wording of an error. -/
def errorTips (error : String) : List String :=
  let lowered := Text.lower error.toList
  (if reportsBadSyntax lowered then ["Check for missing commas, parentheses, or quotes"] else []) ++
    (if reportsMissingTable lowered then
      ["Verify the table name exists in the schema", "Use the schema tool to see available tables"]
    else []) ++
    (if reportsMissingColumn lowered then
      ["Check if the column name is spelled correctly",
        "Use the schema tool to see available columns"]
    else []) ++
    (if reportsAmbiguous lowered then
      ["Use table aliases to disambiguate column names (e.g., t1.id, t2.id)"]
    else [])

/-- The tip that is drawn from a query. -/
def queryTips (query : String) : List String :=
  if lacksJoinCondition query then ["Add an ON clause to your JOIN statement"] else []

/-- The tips for a query about whose failure nothing is known. -/
def generalTips : List String :=
  ["Review the SQL syntax", "Check table and column names against the schema",
    "Ensure proper use of quotes for string literals"]

/-- The tips for a query that failed. -/
def correctionTips (query error : String) : List String :=
  let tips := errorTips error ++ queryTips query
  if tips.isEmpty then generalTips else tips

/-- Advice on a query that failed. -/
def suggestCorrection (query error : String) : String :=
  ". ".intercalate (correctionTips query error) ++ "."

end Querent.Sql
