import Querent.History.Basic

/-!
# Usage

Figures about the entries of a history: how many attempts there were and how many succeeded, how
long they took, which errors are the most frequent and how many attempts fell into each hour.
-/

namespace Querent

/-- Figures about entries. -/
structure Usage where
  total : Nat
  successful : Nat
  /-- The share of entries that did not succeed, in percent. -/
  errorRate : Float
  /-- The rounded mean time of entries that succeeded, in milliseconds. -/
  meanTime : Nat
  rowsReturned : Nat
  errors : List (String × Nat)
  hours : List (String × Nat)

namespace Usage

/-- The largest number of errors that are listed. -/
def mostErrors : Nat := 10

/-- The largest number of hours that are listed. -/
def mostHours : Nat := 24

/-- Counts one more occurrence of a text; a text that is new comes last. -/
def count (text : String) : List (String × Nat) → List (String × Nat)
  | [] => [(text, 1)]
  | (other, n) :: rest =>
    if other == text then (other, n + 1) :: rest else (other, n) :: count text rest

/-- How often each text occurs, in the order in which the texts appear. -/
def tally (texts : List String) : List (String × Nat) :=
  texts.foldl (fun counts text => count text counts) []

/-- Whether an error is listed no later than another: the more frequent first, then by text. -/
def errorOrder (a b : String × Nat) : Bool :=
  b.2 < a.2 || (b.2 == a.2 && a.1 ≤ b.1)

/-- Whether an entry ended with rows. -/
def succeeded (entry : HistoryEntry) : Bool :=
  entry.status = .success

/-- The error of an entry that did not succeed. -/
def errorOf (entry : HistoryEntry) : String :=
  entry.errorMessage.getD "Unknown error"

/-- The most frequent errors. -/
def errorCounts (entries : List HistoryEntry) : List (String × Nat) :=
  let failed := entries.filter fun entry => !succeeded entry
  ((tally (failed.map errorOf)).mergeSort errorOrder).take mostErrors

/-- The latest hours with entries, from the earliest to the latest. -/
def hourCounts (entries : List HistoryEntry) : List (String × Nat) :=
  let counts := (tally (entries.map (·.createdAt.hourText))).mergeSort fun a b => a.1 ≤ b.1
  counts.drop (counts.length - mostHours)

/-- A sum that is kept in a machine word. -/
def wordSum (values : List Nat) : Nat :=
  values.foldr (· + ·) 0 % Nat.pow 2 64

/-- The share of entries that did not succeed, in percent. -/
def rate (total successful : Nat) : Float :=
  if total == 0 then 0
  else Float.ofNat (total - successful) / Float.ofNat total * 100

/-- A sum of times divided by their number, rounded to the nearest whole number. -/
def mean (sum count : Nat) : Nat :=
  if count == 0 then 0
  else (Float.ofNat sum / Float.ofNat count).round.toUInt64.toNat

/-- Figures about entries. -/
def ofEntries (entries : List HistoryEntry) : Usage :=
  let successes := entries.filter succeeded
  { total := entries.length
    successful := successes.length
    errorRate := rate entries.length successes.length
    meanTime := mean (wordSum (successes.map (·.milliseconds))) successes.length
    rowsReturned := wordSum (successes.map (·.resultCount))
    errors := errorCounts entries
    hours := hourCounts entries }

/-- A list of texts with their numbers as a document. -/
def countsJson (name : String) (counts : List (String × Nat)) : Json :=
  .array (counts.map fun (text, n) =>
    .ofFields [(name, .string text), ("count", .integer n)])

/-- Figures as a document. -/
def json (usage : Usage) : Json :=
  .ofFields [("totalQueries", .integer usage.total), ("successfulQueries", .integer usage.successful),
    ("errorRate", .float usage.errorRate), ("avgExecutionTime", .integer usage.meanTime),
    ("totalRowsReturned", .integer usage.rowsReturned),
    ("errorBreakdown", countsJson "error" usage.errors),
    ("queriesOverTime", countsJson "hour" usage.hours)]

end Usage

/-- Figures about the entries of a history. -/
def History.usage (history : History) : Usage :=
  .ofEntries history.entries

end Querent
