import Querent.Assistant.Request

/-!
# Prompts

The text that an assistant is asked to continue.  It ends inside an open block for a query, so that
the continuation is the query itself.
-/

namespace Querent.Prompt

/-- The rules that the assistant is asked to follow. -/
def instructions : List String :=
  ["",
    "### Instructions:",
    "Your task is to convert a question into a SQL query for DuckDB, given a database schema.",
    "Adhere to these rules:",
    "- **Only write a single read-only SELECT statement.** Common table expressions " ++
      "(`WITH ... SELECT`) are allowed.",
    "- **Never modify data or schema**: no INSERT, UPDATE, DELETE, DROP, CREATE, ALTER, " ++
      "TRUNCATE, GRANT, REVOKE, EXEC or EXECUTE.",
    "- **Be careful with column names - they are case sensitive**",
    "- **Use the exact spelling of column names as provided in the schema**",
    "- **Deliberately go through the question and database schema word by word** to " ++
      "appropriately answer the question",
    "- **Use Table Aliases** to prevent ambiguity. For example, " ++
      "`SELECT table1.col1, table2.col1 FROM table1 JOIN table2 ON table1.id = table2.id`.",
    "- When creating a ratio, always cast the numerator as float",
    ""]

/-- The question and the schema. -/
def input (question schema : String) : List String :=
  ["### Input:",
    "Generate a SQL query that answers the question `" ++ question ++ "`.",
    "This query will run on a DuckDB database with the following tables and columns:",
    "",
    schema,
    ""]

/-- The last attempt and what went wrong with it. -/
def previousAttempt (feedback : Feedback) : List String :=
  ["### Previous attempt:",
    "This query was tried and failed:",
    "```sql",
    feedback.sql,
    "```",
    "Error: " ++ feedback.error,
    "Hints: " ++ feedback.suggestion,
    "Write a corrected query that avoids this error.",
    ""]

/-- The start of the answer. -/
def response (question : String) : List String :=
  ["### Response:",
    "Based on your instructions, here is the SQL query I have generated to answer the question `" ++
      question ++ "`:",
    "```sql",
    ""]

/-- The prompt for a request. -/
def text (request : SqlRequest) : String :=
  "\n".intercalate (instructions ++ input request.question request.schema ++
    (request.feedback.map previousAttempt).getD [] ++ response request.question)

end Querent.Prompt
