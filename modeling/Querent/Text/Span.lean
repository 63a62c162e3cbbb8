/-!
# Spans of code points

A Unicode property is written as a list of spans of consecutive code points.  A character has the
property when its code point lies in one of them.
-/

namespace Querent.Text

/-- The first and the last code point of a span. -/
abbrev Span := Nat × Nat

/-- Whether a character lies in one of the spans. -/
def inSpans (spans : List Span) (c : Char) : Bool :=
  spans.any fun span => span.1 ≤ c.toNat && c.toNat ≤ span.2

@[simp]
theorem inSpans_nil (c : Char) : inSpans [] c = false := rfl

@[simp]
theorem inSpans_cons (span : Span) (spans : List Span) (c : Char) :
    inSpans (span :: spans) c =
      ((span.1 ≤ c.toNat && c.toNat ≤ span.2) || inSpans spans c) := rfl

end Querent.Text
