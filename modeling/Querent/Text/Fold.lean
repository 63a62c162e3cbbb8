import Querent.Text.Search

/-!
# Comparing letters without case

Two letters are equal without regard to case when they fold to the same letter.  Only Latin letters
without marks are ever looked for, and apart from their own capitals just two characters fold to
them: the long s and the sign for kelvin.
-/

namespace Querent.Text

/-- The small Latin letter that a character folds to; any other character stays as it is. -/
def foldChar (c : Char) : Char :=
  if c == '\u017f' then 's' else if c == '\u212a' then 'k' else c.toLower

/-- A text with every letter folded. -/
def fold (text : List Char) : List Char :=
  text.map foldChar

@[simp]
theorem fold_nil : fold [] = [] := rfl

@[simp]
theorem fold_cons (c : Char) (text : List Char) : fold (c :: text) = foldChar c :: fold text := rfl

@[simp]
theorem fold_append (first second : List Char) :
    fold (first ++ second) = fold first ++ fold second :=
  List.map_append

/-- Whether one of the words, written in small letters, occurs in a text in any letter case. -/
def mentionsAny (words : List String) (text : String) : Bool :=
  words.any fun word => occursIn word.toList (fold text.toList)

end Querent.Text
