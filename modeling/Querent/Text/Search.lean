/-!
# Searching in a text

Occurrences of one text inside another.  A text *occurs in* another when the other is the text with
something before it and something after it; the first occurrence is the one with the least before.
-/

namespace Querent.Text

/-- Whether the second text begins with the first. -/
def startsWith (pattern text : List Char) : Bool :=
  pattern.isPrefixOf text

/-- Whether the pattern occurs in the text. -/
def occursIn (pattern : List Char) : List Char → Bool
  | [] => pattern.isEmpty
  | c :: rest => pattern.isPrefixOf (c :: rest) || occursIn pattern rest

/--
The text before and the text after the first occurrence of the pattern, or nothing when the pattern
does not occur.
-/
def splitAtFirst (pattern : List Char) : List Char → Option (List Char × List Char)
  | [] => if pattern.isEmpty then some ([], []) else none
  | c :: rest =>
    if pattern.isPrefixOf (c :: rest) then some ([], (c :: rest).drop pattern.length)
    else (splitAtFirst pattern rest).map fun (before, after) => (c :: before, after)

/--
The lines of a text.  A line ends at a line feed, which it does not include, nor a carriage return
right before it; an empty rest after the last line feed is no line.
-/
def lines (text : List Char) : List (List Char) :=
  let (current, finished) := text.foldl step ([], [])
  let all := if current.isEmpty then finished else current.reverse :: finished
  all.reverse
where
  /-- Adds one character to the line under way, which is kept in reverse. -/
  step : List Char × List (List Char) → Char → List Char × List (List Char)
    | (current, finished), c =>
      if c == '\n' then
        let line := if current.head? == some '\r' then current.drop 1 else current
        ([], line.reverse :: finished)
      else (c :: current, finished)

/-- The text with every occurrence of one character replaced by another. -/
def replaceChar (old new : Char) (text : List Char) : List Char :=
  text.map fun c => if c == old then new else c

/-- A pattern occurs in a text exactly when the text is the pattern with text around it. -/
theorem occursIn_iff {pattern text : List Char} :
    occursIn pattern text = true ↔ pattern <:+: text := by
  induction text with
  | nil => simp [occursIn, List.infix_nil, List.isEmpty_iff]
  | cons c rest ih =>
    simp only [occursIn, Bool.or_eq_true, ih, List.isPrefixOf_iff_prefix, List.infix_cons_iff]

end Querent.Text
