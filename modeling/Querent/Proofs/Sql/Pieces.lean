import Querent.Proofs.Sql.Lookahead.Scan

/-!
# The pieces of a text

A text that can be divided into tokens is made of pieces, one for each scan: the pieces from which the
tokens are read, and the blanks and comments between them.
-/

namespace Querent.Sql

/-- A piece of a text, with the token that is read from it if it is no blank and no comment. -/
structure Piece where
  text : List Char
  token : Option Token
  deriving DecidableEq, Repr

/-- The tokens of pieces. -/
def tokensOf (pieces : List Piece) : List Token :=
  pieces.filterMap Piece.token

namespace Lexer

/-- The pieces of a text, in at most the given number of steps, if it can be divided in these. -/
def piecesFrom (dialect : Dialect) : Nat → List Char → Option (List Piece)
  | _, [] => some []
  | 0, _ :: _ => none
  | steps + 1, c :: rest =>
    match scan dialect c rest with
    | .error _ => none
    | .ok (token, behind) =>
      let piece := (c :: rest).take ((c :: rest).length - behind.length)
      (piecesFrom dialect steps behind).map (⟨piece, token⟩ :: ·)

/-- Whether a text is divided into pieces, scan by scan. -/
inductive Divides (dialect : Dialect) : List Char → List Piece → Prop where
  | nil : Divides dialect [] []
  | cons {c : Char} {rest behind piece : List Char} {token : Option Token} {pieces : List Piece}
      (scanned : scan dialect c rest = .ok (token, behind)) (whole : c :: rest = piece ++ behind)
      (later : Divides dialect behind pieces) : Divides dialect (c :: rest) (⟨piece, token⟩ :: pieces)

variable {dialect : Dialect}

/-- Every scan takes at least the first character. -/
theorem exists_piece_of_scan {c : Char} {rest behind : List Char} {token : Option Token}
    (scanned : scan dialect c rest = .ok (token, behind)) : ∃ piece, rest = piece ++ behind := by
  cases token with
  | some token =>
      have found : token? (scan dialect c rest) = some (token, behind) := by rw [scanned]; rfl
      obtain ⟨piece, same, -⟩ := glancesAt_scan dialect c rest token behind found
      exact ⟨piece, same⟩
  | none =>
      cases skips_of_scan dialect scanned with
      | blank => exact ⟨[], rfl⟩
      | line after =>
          obtain ⟨piece, same⟩ := (afterLine_suffix after).trans (List.suffix_cons '-' after)
          exact ⟨piece, same.symm⟩
      | block closed =>
          obtain ⟨piece, same⟩ := (afterBlockComment_suffix closed).trans (List.suffix_cons '*' _)
          exact ⟨piece, same.symm⟩

theorem length_le_of_scan {c : Char} {rest behind : List Char} {token : Option Token}
    (scanned : scan dialect c rest = .ok (token, behind)) : behind.length ≤ rest.length := by
  obtain ⟨piece, rfl⟩ := exists_piece_of_scan scanned
  simp

theorem tokensFrom_of_scan {c : Char} {rest behind : List Char} {token : Option Token}
    (scanned : scan dialect c rest = .ok (token, behind)) (steps : Nat) (position : Position) :
    tokensFrom dialect (steps + 1) position (c :: rest) =
      (tokensFrom dialect steps (positionOf position (c :: rest) behind) behind).map
        (token.toList.map (⟨·, position⟩) ++ ·) := by
  rw [tokensFrom, scanned]
  simp only
  cases tokensFrom dialect steps (positionOf position (c :: rest) behind) behind with
  | error error => rfl
  | ok later => cases token <;> rfl

theorem map_token_append (token : Option Token) (position : Position) (later : List Located) :
    (token.toList.map (fun token => (⟨token, position⟩ : Located)) ++ later).map (·.token) =
      token.toList ++ later.map (·.token) := by
  cases token <;> rfl

theorem tokensOf_cons (piece : List Char) (token : Option Token) (pieces : List Piece) :
    tokensOf (⟨piece, token⟩ :: pieces) = token.toList ++ tokensOf pieces := by
  cases token <;> rfl

/-- The tokens of a divided text are those of its pieces. -/
theorem Divides.tokensFrom_eq {text : List Char} {pieces : List Piece}
    (divides : Divides dialect text pieces) {steps : Nat} (enough : text.length ≤ steps)
    (position : Position) :
    ∃ located, tokensFrom dialect steps position text = .ok located ∧
      located.map (·.token) = tokensOf pieces := by
  induction divides generalizing steps position with
  | nil =>
      refine ⟨[], ?_, rfl⟩
      cases steps <;> rfl
  | @cons c rest behind piece token pieces scanned whole later ih =>
      cases steps with
      | zero => cases enough
      | succ steps =>
          have left := length_le_of_scan scanned
          have enough : rest.length ≤ steps := Nat.le_of_succ_le_succ enough
          obtain ⟨located, read, same⟩ := ih (Nat.le_trans left enough)
            (positionOf position (c :: rest) behind)
          refine ⟨_, by rw [tokensFrom_of_scan scanned, read]; rfl, ?_⟩
          rw [map_token_append, same, tokensOf_cons]

/-- A text that can be divided into tokens is divided into pieces. -/
theorem exists_divides {steps : Nat} {position : Position} {text : List Char}
    {located : List Located} (enough : text.length ≤ steps)
    (read : tokensFrom dialect steps position text = .ok located) :
    ∃ pieces, Divides dialect text pieces ∧ tokensOf pieces = located.map (·.token) := by
  induction steps generalizing position text located with
  | zero =>
      obtain rfl := List.eq_nil_of_length_eq_zero (Nat.le_zero.1 enough)
      cases read
      exact ⟨[], .nil, rfl⟩
  | succ steps ih =>
      cases text with
      | nil =>
          cases read
          exact ⟨[], .nil, rfl⟩
      | cons c rest =>
          cases scanned : scan dialect c rest with
          | error fault =>
              rw [tokensFrom, scanned] at read
              cases read
          | ok result =>
              obtain ⟨token, behind⟩ := result
              rw [tokensFrom_of_scan scanned] at read
              obtain ⟨piece, whole⟩ := exists_piece_of_scan scanned
              cases readLater : tokensFrom dialect steps (positionOf position (c :: rest) behind)
                  behind with
              | error error =>
                  rw [readLater] at read
                  cases read
              | ok later =>
                  rw [readLater] at read
                  cases read
                  have left := Nat.le_trans (length_le_of_scan scanned)
                    (Nat.le_of_succ_le_succ enough)
                  obtain ⟨pieces, divides, same⟩ := ih left readLater
                  refine ⟨⟨c :: piece, token⟩ :: pieces, .cons scanned ?_ divides, ?_⟩
                  · rw [List.cons_append, whole]
                  · rw [tokensOf_cons, same, map_token_append]

/-- A text is divided into one list of pieces alone, which the steps yield. -/
theorem Divides.piecesFrom_eq {text : List Char} {pieces : List Piece}
    (divides : Divides dialect text pieces) {steps : Nat} (enough : text.length ≤ steps) :
    piecesFrom dialect steps text = some pieces := by
  induction divides generalizing steps with
  | nil => cases steps <;> rfl
  | @cons c rest behind piece token pieces scanned whole later ih =>
      cases steps with
      | zero => cases enough
      | succ steps =>
          have left := Nat.le_trans (length_le_of_scan scanned) (Nat.le_of_succ_le_succ enough)
          have taken : (c :: rest).take ((c :: rest).length - behind.length) = piece := by
            rw [whole, List.length_append, Nat.add_sub_cancel, List.take_left]
          rw [piecesFrom, scanned]
          simp only [ih left, taken, Option.map_some]

end Lexer

open Lexer

/-- The pieces of a query, if it can be divided into tokens. -/
def pieces (dialect : Dialect) (query : String) : Option (List Piece) :=
  piecesFrom dialect query.toList.length query.toList

variable {dialect : Dialect} {query : String}

theorem tokens_of_divides {ps : List Piece} (divides : Divides dialect query.toList ps) :
    tokens dialect query = .ok (tokensOf ps) := by
  obtain ⟨located, read, same⟩ := divides.tokensFrom_eq (Nat.le_refl _) .start
  rw [tokens, locatedTokens, read, ← same]
  rfl

theorem exists_divides_of_tokens {found : List Token} (read : tokens dialect query = .ok found) :
    ∃ ps, Divides dialect query.toList ps ∧ pieces dialect query = some ps ∧ tokensOf ps = found := by
  unfold tokens at read
  cases located : locatedTokens dialect query with
  | error error =>
      rw [located] at read
      cases read
  | ok list =>
      rw [located] at read
      cases read
      obtain ⟨ps, divides, same⟩ := exists_divides (Nat.le_refl _) located
      exact ⟨ps, divides, divides.piecesFrom_eq (Nat.le_refl _), same⟩

end Querent.Sql
