import Querent.Text.Span

/-!
# Blanks

The Unicode property *White_Space* and the removal of blanks at the ends of a text.  Trimming a text
removes exactly the blanks before its first and after its last other character, so a trimmed text
is empty or has no blank at either end.
-/

namespace Querent.Text

/-- The spans of blank code points. -/
def blankSpans : List Span :=
  [(0x09, 0x0D), (0x20, 0x20), (0x85, 0x85), (0xA0, 0xA0), (0x1680, 0x1680), (0x2000, 0x200A),
    (0x2028, 0x2029), (0x202F, 0x202F), (0x205F, 0x205F), (0x3000, 0x3000)]

/-- Whether a character is blank. -/
def isBlank (c : Char) : Bool :=
  inSpans blankSpans c

/-- A text without the blanks it starts with. -/
def trimStart (text : List Char) : List Char :=
  text.dropWhile isBlank

/-- A text without the blanks it ends with. -/
def trimEnd (text : List Char) : List Char :=
  (text.reverse.dropWhile isBlank).reverse

/-- A text without the blanks at its two ends. -/
def trim (text : List Char) : List Char :=
  trimEnd (trimStart text)

@[simp]
theorem trim_nil : trim [] = [] := rfl

end Querent.Text

namespace Querent

/-- A string without the blanks at its two ends. -/
def trimmed (text : String) : String :=
  String.ofList (Text.trim text.toList)

end Querent
