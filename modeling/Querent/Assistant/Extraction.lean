import Querent.Text.Blank
import Querent.Text.Case
import Querent.Text.Search

/-!
# Extraction

The query in the reply of an assistant.  Replies put a query into a block that is marked as a query,
into a plain block, before the mark that closes a block, or on lines of their own; a reply of any
other form is taken as a whole.
-/

namespace Querent

/-- The form of a reply and the query in it. -/
inductive Extraction where
  | markedBlock (sql : String)
  | plainBlock (sql : String)
  | beforeFence (sql : String)
  | statementLines (sql : String)
  | wholeReply (sql : String)
  deriving DecidableEq, Repr

namespace Extraction

/-- The query that was found. -/
def sql : Extraction → String
  | markedBlock sql | plainBlock sql | beforeFence sql | statementLines sql | wholeReply sql => sql

/-- What is reported about where the query was found. -/
def remark? : Extraction → Option String
  | markedBlock _ => some "Extracted SQL using code block markers"
  | plainBlock _ => some "Extracted SQL using simple code block markers"
  | statementLines _ => some "Extracted SQL using line scanning"
  | beforeFence _ | wholeReply _ => none

/-- The mark around a block. -/
def fence : List Char := "```".toList

/-- The mark before a block that holds a query, in small letters. -/
def queryFence : List Char := "```sql".toList

/-- The words that a query starts with. -/
def statementWords : List String :=
  ["SELECT", "WITH", "INSERT", "UPDATE", "DELETE", "CREATE", "ALTER", "DROP"]

/-- A text up to the next mark around a block, without blanks at its ends. -/
def block (text : List Char) : List Char :=
  Text.trim <|
    match Text.splitAtFirst fence text with
    | some (before, _) => before
    | none => text

/-- The text after the first mark before a block that holds a query, in any letter case. -/
def afterQueryFence? (reply : List Char) : Option (List Char) :=
  (Text.splitAtFirst queryFence (Text.lowerAscii reply)).map fun (before, _) =>
    reply.drop (before.length + queryFence.length)

/-- Whether a line starts with a word that a query starts with. -/
def startsStatement (line : List Char) : Bool :=
  let shown := Text.upper (Text.trim line)
  statementWords.any fun word => Text.startsWith word.toList shown

/-- Lines joined by blanks, up to the first that ends a statement or starts a block. -/
def statementTail : List (List Char) → List Char
  | [] => []
  | line :: rest =>
    let next := Text.trim line
    if Text.startsWith fence next then []
    else if next.getLast? == some ';' then ' ' :: next
    else ' ' :: next ++ statementTail rest

/-- The statement that starts on the first of the lines. -/
def statementFrom (first : List Char) (rest : List (List Char)) : List Char :=
  let start := Text.trim first
  if start.getLast? == some ';' then start else Text.trim (start ++ statementTail rest)

/-- The statement that starts on the first line that can start one. -/
def statement? : List (List Char) → Option (List Char)
  | [] => none
  | line :: rest =>
    if startsStatement line then some (statementFrom line rest) else statement? rest

/-- The query in a reply without blocks. -/
def ofLines (reply : List Char) : Extraction :=
  match statement? (Text.lines reply) with
  | some found => statementLines (String.ofList found)
  | none => wholeReply (String.ofList (Text.trim reply))

/-- The query in a reply without a block that is marked as a query. -/
def ofPlain (reply : List Char) : Extraction :=
  match Text.splitAtFirst fence reply with
  | none => ofLines reply
  | some (before, after) =>
    match Text.splitAtFirst fence after with
    | some (body, _) => plainBlock (String.ofList (Text.trim body))
    | none =>
      if (Text.trim before).isEmpty then ofLines reply
      else beforeFence (String.ofList (Text.trim before))

/-- The query in a reply. -/
def ofReply (reply : String) : Extraction :=
  match afterQueryFence? reply.toList with
  | some body => markedBlock (String.ofList (block body))
  | none => ofPlain reply.toList

end Extraction

end Querent
