import Querent.Proofs.Sql.Pieces
import Querent.Proofs.Text.Lines

/-!
# Queries in one line

Joining the lines of a query leaves its tokens as they are if no token holds a line break or has
blanks at its ends, and no token stands behind a comment that ends with its line: in one line such a
comment never ends.
-/

namespace Querent.Sql

open Text (isBlank IsBlankText Joins JoinsBehind)

/-! ## What a query must be like -/

/--
Whether a piece holds no line break and has no blanks at its ends, as names in one of the dialects may.
-/
structure Piece.Compact (piece : Piece) : Prop where
  tidy : Text.Tidy piece.text
  whole : '\n' ∉ piece.text

/-- Whether a piece is a comment that ends with its line. -/
def Piece.IsLineComment (piece : Piece) : Prop :=
  piece.token = none ∧ ['-', '-'] <+: piece.text

/-- Whether the lines of a text that is divided into pieces may be joined. -/
structure Joinable (pieces : List Piece) : Prop where
  compact : ∀ piece ∈ pieces, piece.token.isSome → piece.Compact
  uncommented : pieces.Pairwise fun earlier later => earlier.IsLineComment → later.token = none

instance (piece : Piece) : Decidable piece.Compact :=
  decidable_of_iff (Text.Tidy piece.text ∧ '\n' ∉ piece.text)
    ⟨fun ⟨tidy, whole⟩ => ⟨tidy, whole⟩, fun ⟨tidy, whole⟩ => ⟨tidy, whole⟩⟩

instance (piece : Piece) : Decidable piece.IsLineComment :=
  inferInstanceAs (Decidable (_ ∧ _))

instance (pieces : List Piece) : Decidable (Joinable pieces) :=
  decidable_of_iff (_ ∧ _) ⟨fun ⟨compact, uncommented⟩ => ⟨compact, uncommented⟩,
    fun ⟨compact, uncommented⟩ => ⟨compact, uncommented⟩⟩

theorem Joinable.tail {piece : Piece} {pieces : List Piece} (joinable : Joinable (piece :: pieces)) :
    Joinable pieces where
  compact later member := joinable.compact later (List.mem_cons_of_mem _ member)
  uncommented := joinable.uncommented.tail

/-- Behind a comment that ends with its line there are no tokens. -/
theorem Joinable.tokensOf_eq_nil {piece : Piece} {pieces : List Piece}
    (joinable : Joinable (piece :: pieces)) (comment : piece.IsLineComment) : tokensOf pieces = [] :=
  List.filterMap_eq_nil_iff.2 fun _ member =>
    List.rel_of_pairwise_cons joinable.uncommented member comment

namespace Lexer

variable {dialect : Dialect} {text joined behind : List Char}

/-! ## Blanks and comments -/

theorem sameAhead_of_joins (joins : Joins text joined) : SameAhead text joined := by
  induction joins with
  | trailing blank =>
      exact .pause (fun c isFirst => blank c (List.mem_of_mem_head? isFirst)) (by simp)
  | kept _ _ ih => exact .cons _ ih
  | @gap blanks blank broken text joined _ _ =>
      refine .pause (fun c isFirst => ?_) (by simp)
      cases blanks with
      | nil => cases broken
      | cons d blanks =>
          cases isFirst
          exact blank c (List.mem_cons_self ..)

/-- A blank is no start and no end of a mark of a comment. -/
theorem afterBlockComment_of_blank {last : Char} (blank : isBlank last = true) (depth : Nat)
    (text : List Char) : afterBlockComment depth last text = afterBlockComment depth ' ' text := by
  have notSlash : (last == '/') = false := beq_eq_false_iff_ne.2 (by rintro rfl; cases blank)
  have notStar : (last == '*') = false := beq_eq_false_iff_ne.2 (by rintro rfl; cases blank)
  cases text with
  | nil => simp [afterBlockComment]
  | cons c rest => simp [afterBlockComment, notSlash, notStar]

theorem afterBlockComment_blanks {blanks : List Char} (blank : IsBlankText blanks) (depth : Nat)
    (text : List Char) :
    afterBlockComment depth ' ' (blanks ++ text) = afterBlockComment depth ' ' text := by
  induction blanks with
  | nil => rfl
  | cons c blanks ih =>
      obtain ⟨first, later⟩ := List.forall_mem_cons.1 blank
      rw [List.cons_append, afterBlockComment, if_neg (by simp), if_neg (by simp),
        afterBlockComment_of_blank first, ih later]

/-- Blanks inside a comment end nothing and start nothing. -/
theorem afterBlockComment_gap {blanks : List Char} (blank : IsBlankText blanks)
    (nonempty : blanks ≠ []) (depth : Nat) (last : Char) (text : List Char) :
    afterBlockComment depth last (blanks ++ text) = afterBlockComment depth ' ' text := by
  cases blanks with
  | nil => cases nonempty rfl
  | cons c blanks =>
      obtain ⟨first, later⟩ := List.forall_mem_cons.1 blank
      have notSlash : (c == '/') = false := beq_eq_false_iff_ne.2 (by rintro rfl; cases first)
      have notStar : (c == '*') = false := beq_eq_false_iff_ne.2 (by rintro rfl; cases first)
      rw [List.cons_append, afterBlockComment, if_neg (by simp [notStar]),
        if_neg (by simp [notSlash]), afterBlockComment_of_blank first, afterBlockComment_blanks later]

/-- A comment that may go on over lines ends at the same place when they are joined. -/
theorem afterBlockComment_of_joins (joins : Joins text joined) {depth : Nat} {last : Char}
    (closed : afterBlockComment depth last text = some behind) :
    ∃ left, afterBlockComment depth last joined = some left ∧ Joins behind left := by
  induction joins generalizing depth last with
  | @trailing text blank =>
      cases text with
      | nil => simp [afterBlockComment] at closed
      | cons c rest =>
          have never := afterBlockComment_gap blank (List.cons_ne_nil c rest) depth last []
          rw [List.append_nil, closed] at never
          simp [afterBlockComment] at never
  | @kept c notBreak text joined later ih =>
      rw [afterBlockComment] at closed ⊢
      split at closed
      next opens =>
        rw [if_pos opens]
        exact ih closed
      next plain =>
        rw [if_neg plain]
        split at closed
        next closes =>
          rw [if_pos closes]
          split at closed
          next outer =>
            cases closed
            exact ⟨joined, if_pos outer, later⟩
          next inner =>
            rw [if_neg inner]
            exact ih closed
        next inside =>
          rw [if_neg inside]
          exact ih closed
  | @gap blanks blank broken text joined later ih =>
      rw [afterBlockComment_gap blank (List.ne_nil_of_mem broken)] at closed
      obtain ⟨left, same, joins⟩ := ih closed
      have space : IsBlankText [' '] := List.forall_mem_singleton.2 (by decide)
      exact ⟨left, (afterBlockComment_gap space (by simp) depth last joined).trans same, joins⟩

theorem afterLine_eq_nil (whole : '\n' ∉ text) : afterLine text = [] := by
  have all : ∀ c ∈ text, (c != '\n') = true := by
    intro c member
    exact bne_iff_ne.2 fun same => whole (same ▸ member)
  rw [afterLine, List.dropWhile_eq_nil_iff.2 all, List.drop_nil]

/-- Whether a blank is skipped does not depend on what stands behind it. -/
theorem scan_blank {c : Char} (blank : isBlank c = true) {rest behind : List Char}
    (skipped : scan dialect c rest = .ok (none, behind)) (other : List Char) :
    scan dialect c other = .ok (none, other) := by
  by_cases common : c ∈ specialStarts
  · have few : specialStarts.all (fun d => !isBlank d || [' ', '\t', '\n', '\r'].contains d) = true :=
      by decide
    have found := List.all_eq_true.1 few c common
    have oneOf : c = ' ' ∨ c = '\t' ∨ c = '\n' ∨ c = '\r' := by simpa [blank] using found
    rcases oneOf with rfl | rfl | rfl | rfl <;> rfl
  · have none : symbolStarts.all (!isBlank ·) = true := by decide
    have plain : c ∉ symbolStarts := fun starts => by
      simpa [blank] using List.all_eq_true.1 none c starts
    rw [scan_of_common dialect common] at skipped ⊢
    unfold scanCommon at skipped ⊢
    rw [scanSymbol_of_plain dialect plain] at skipped ⊢
    unfold scanPlain at skipped ⊢
    split at skipped
    · exact absurd skipped (solid_scanQuotedName _ _ _ _)
    split at skipped
    · exact absurd skipped (solid_scanQuoted dialect _ _ _ _ _)
    split at skipped
    · exact absurd skipped (solid_scanNumber dialect _ _)
    split at skipped
    · exact absurd skipped (solid_scanWord dialect _ _ _)
    split at skipped
    · exact absurd skipped (solid_scanWord dialect _ _ _)
    split at skipped
    · exact absurd skipped (solid_scanDollar _ _)
    next unquoted undoubled unnumbered unlettered nameless free =>
      rw [if_neg unquoted, if_neg undoubled, if_neg unnumbered, if_neg unlettered, if_neg nameless,
        if_neg free, if_pos blank]

/-! ## The pieces of a joined text -/

/-- A blank is skipped if no token has blanks at its ends. -/
theorem scan_blank_of_compact {c : Char} {rest piece : List Char} {token : Option Token}
    (blank : isBlank c = true) (scanned : scan dialect c rest = .ok (token, behind))
    (whole : c :: rest = piece ++ behind) (compact : token.isSome → Piece.Compact ⟨piece, token⟩) :
    token = none ∧ behind = rest := by
  cases token with
  | none =>
      cases skips_of_scan dialect scanned with
      | blank => exact ⟨rfl, rfl⟩
      | line => cases blank
      | block => cases blank
  | some token =>
      obtain ⟨taken, rfl⟩ := exists_piece_of_scan scanned
      obtain rfl : piece = c :: taken := List.append_cancel_right whole.symm
      have solid : isBlank c = false := (compact rfl).tidy.starts c rfl
      rw [blank] at solid
      cases solid

theorem Divides.exists_cons {c : Char} {rest : List Char} {token : Option Token}
    (scanned : scan dialect c rest = .ok (token, behind)) {pieces : List Piece}
    (later : Divides dialect behind pieces) :
    ∃ piece, Divides dialect (c :: rest) (⟨piece, token⟩ :: pieces) := by
  obtain ⟨piece, rfl⟩ := exists_piece_of_scan scanned
  exact ⟨c :: piece, .cons scanned rfl later⟩

/-- Whether a text can be divided into pieces with some tokens. -/
def HoldsTokens (dialect : Dialect) (text : List Char) (tokens : List Token) : Prop :=
  ∃ pieces, Divides dialect text pieces ∧ tokensOf pieces = tokens

theorem HoldsTokens.cons {c : Char} {rest : List Char} {token : Option Token} {tokens : List Token}
    (scanned : scan dialect c rest = .ok (token, behind)) (later : HoldsTokens dialect behind tokens) :
    HoldsTokens dialect (c :: rest) (token.toList ++ tokens) := by
  obtain ⟨pieces, divides, rfl⟩ := later
  obtain ⟨piece, divides⟩ := divides.exists_cons scanned
  exact ⟨_, divides, tokensOf_cons piece token pieces⟩

/-- A token without line breaks is read from the joined text too. -/
theorem exists_scan_of_token {c : Char} {rest piece : List Char} {token : Token}
    (scanned : scan dialect c rest = .ok (some token, behind)) (whole : c :: rest = piece ++ behind)
    (compact : Piece.Compact ⟨piece, some token⟩) (joins : Joins (c :: rest) joined) :
    ∃ body left, joined = c :: body ∧ scan dialect c body = .ok (some token, left) ∧
      Joins behind left := by
  have found : token? (scan dialect c rest) = some (token, behind) := by
    rw [scanned]
    rfl
  obtain ⟨taken, rfl, again⟩ := glancesAt_scan dialect c rest token behind found
  obtain rfl : piece = c :: taken := List.append_cancel_right whole.symm
  obtain ⟨left, rfl, later⟩ := joins.exists_of_append compact.whole compact.tidy.ends
  refine ⟨taken ++ left, left, rfl, ?_, later⟩
  exact token?_eq_some_iff.1 (again left (sameAhead_of_joins later))

/-- A comment that may go on over lines is skipped in the joined text too. -/
theorem exists_scan_of_block {after : List Char}
    (closed : afterBlockComment 1 ' ' after = some behind) (joins : Joins ('/' :: '*' :: after) joined) :
    ∃ body left, joined = '/' :: body ∧ scan dialect '/' body = .ok (none, left) ∧
      Joins behind left := by
  obtain ⟨body, rfl, inside⟩ :=
    @Joins.exists_of_append _ ['/', '*'] _ joins (by simp) (by rintro _ ⟨⟩; rfl)
  obtain ⟨left, alsoClosed, later⟩ := afterBlockComment_of_joins inside closed
  refine ⟨'*' :: body, left, rfl, ?_, later⟩
  have opens : scan dialect '/' ('*' :: body) = scanSymbol dialect '/' ('*' :: body) := by
    cases dialect <;> rfl
  simp only [opens, scanSymbol, alsoClosed]

/-- The piece up to the end of a line that starts with two dashes is a comment. -/
theorem isLineComment_of_whole {after piece : List Char}
    (whole : '-' :: '-' :: after = piece ++ afterLine after) : Piece.IsLineComment ⟨piece, none⟩ := by
  obtain ⟨comment, same⟩ := afterLine_suffix after
  have split : ['-', '-'] ++ comment ++ afterLine after = piece ++ afterLine after := by
    rw [← whole, List.append_assoc, same]
    rfl
  exact ⟨rfl, comment, List.append_cancel_right split⟩

/-- A comment that ends with its line takes all that is joined to it. -/
theorem holds_nil_of_line {after : List Char} (joins : Joins ('-' :: '-' :: after) joined) :
    HoldsTokens dialect joined [] := by
  obtain ⟨body, rfl, inside⟩ :=
    @Joins.exists_of_append _ ['-', '-'] _ joins (by simp) (by rintro _ ⟨⟩; rfl)
  have skipped : scan dialect '-' ('-' :: body) = .ok (none, afterLine body) := by
    cases dialect <;> rfl
  rw [afterLine_eq_nil inside.newline_notMem] at skipped
  exact .cons skipped ⟨[], .nil, rfl⟩

/-- A text whose lines are joined holds the same tokens. -/
theorem Divides.holds_of_joins {pieces : List Piece} (divides : Divides dialect text pieces)
    (joinable : Joinable pieces) (joins : JoinsBehind text joined) :
    HoldsTokens dialect joined (tokensOf pieces) := by
  induction divides generalizing joined with
  | nil =>
      obtain ⟨margin, body, blank, split, joins⟩ := joins
      obtain ⟨rfl, rfl⟩ := List.append_eq_nil_iff.1 split.symm
      rw [joins.eq_nil rfl]
      exact ⟨[], .nil, rfl⟩
  | @cons c rest behind piece token pieces scanned whole later ih =>
      have compact := joinable.compact _ (List.mem_cons_self ..)
      rw [tokensOf_cons]
      -- A blank may belong to the gap between two lines, of which only one space is left.
      cases blank : isBlank c with
      | true =>
          obtain ⟨rfl, rfl⟩ := scan_blank_of_compact blank scanned whole compact
          obtain ⟨left, laterJoins, rfl | rfl | rfl⟩ := joins.exists_of_cons
          · exact ih joinable.tail laterJoins
          · exact .cons (scan_blank blank scanned left) (ih joinable.tail laterJoins)
          · have skipped : scan dialect ' ' left = .ok (none, left) := rfl
            exact .cons skipped (ih joinable.tail laterJoins)
      | false =>
          have joins := joins.joins_of_solid blank
          cases token with
          | some token =>
              obtain ⟨body, left, rfl, again, laterJoins⟩ :=
                exists_scan_of_token scanned whole (compact rfl) joins
              exact .cons again (ih joinable.tail laterJoins.toBehind)
          | none =>
              cases skips_of_scan dialect scanned with
              | blank isBlank =>
                  rw [isBlank] at blank
                  cases blank
              | block closed =>
                  obtain ⟨body, left, rfl, again, laterJoins⟩ := exists_scan_of_block closed joins
                  exact .cons again (ih joinable.tail laterJoins.toBehind)
              | line after =>
                  rw [joinable.tokensOf_eq_nil (isLineComment_of_whole whole)]
                  exact holds_nil_of_line joins

end Lexer

open Lexer

/-- A query whose lines may be joined is read alike when they are joined. -/
theorem tokens_of_joins {dialect : Dialect} {query joined : String} {found : List Token}
    (read : tokens dialect query = .ok found)
    (joinable : ∀ parts ∈ pieces dialect query, Joinable parts)
    (joins : JoinsBehind query.toList joined.toList) : tokens dialect joined = .ok found := by
  obtain ⟨parts, divides, inPieces, rfl⟩ := exists_divides_of_tokens read
  obtain ⟨others, alsoDivides, same⟩ := divides.holds_of_joins (joinable parts inPieces) joins
  rw [tokens_of_divides alsoDivides, same]

end Querent.Sql
