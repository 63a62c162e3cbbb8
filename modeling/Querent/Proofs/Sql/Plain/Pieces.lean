import Mathlib.Data.List.TakeWhile
import Querent.Sql.Lexer

/-!
# Pieces of canonical text

A canonical text is a row of *pieces*: tokens in their own wording, each with or without a blank
before it.  Where no piece grows together with the text behind it, the tokens of the text are those
of its pieces.  Some signs do grow together where no blank stands between them: two minus signs open
a comment, and nothing behind them is read.
-/

namespace Querent.Sql.Plain

/-- A token, and whether a blank stands before it. -/
structure Piece where
  apart : Bool
  token : Token

/-- How a piece is written. -/
def Piece.text (piece : Piece) : List Char :=
  (if piece.apart then [' '] else []) ++ piece.token.text.toList

/-- How a row of pieces is written. -/
def textOf (pieces : List Piece) : List Char :=
  pieces.flatMap Piece.text

@[simp]
theorem textOf_nil : textOf [] = [] := rfl

@[simp]
theorem textOf_cons (piece : Piece) (rest : List Piece) :
    textOf (piece :: rest) = piece.text ++ textOf rest := rfl

@[simp]
theorem textOf_append (first second : List Piece) :
    textOf (first ++ second) = textOf first ++ textOf second := by
  simp [textOf]

/-- Whether a token is read from its own wording where a text follows. -/
def Scans (dialect : Dialect) (token : Token) (following : List Char) : Prop :=
  ∃ c letters, token.text.toList = c :: letters ∧
    Lexer.scan dialect c (letters ++ following) = Lexer.found token following

/-! ## The tokens of a text -/

/-- Whether a text is read as some tokens, wherever it stands. -/
def LexesTo (dialect : Dialect) (text : List Char) (tokens : List Token) : Prop :=
  ∀ steps position, text.length ≤ steps → ∃ located,
    Lexer.tokensFrom dialect steps position text = .ok located ∧ located.map (·.token) = tokens

namespace LexesTo

variable {dialect : Dialect} {following : List Char} {tokens : List Token}

theorem nil : LexesTo dialect [] [] := by
  intro steps position _
  cases steps with
  | zero => exact ⟨[], rfl, rfl⟩
  | succ steps => exact ⟨[], rfl, rfl⟩

/-- Reading one more blank or token takes one step. -/
theorem of_scan {c : Char} {rest : List Char} {token : Option Token}
    (later : LexesTo dialect following tokens) (fewer : following.length ≤ rest.length)
    (scanned : Lexer.scan dialect c rest = .ok (token, following)) :
    LexesTo dialect (c :: rest) (token.toList ++ tokens) := by
  intro steps position enough
  cases steps with
  | zero => simp at enough
  | succ steps =>
      rw [List.length_cons] at enough
      obtain ⟨located, read, same⟩ :=
        later steps (Lexer.positionOf position (c :: rest) following) (by omega)
      unfold Lexer.tokensFrom
      rw [scanned]
      simp only [read]
      cases token with
      | none => exact ⟨located, rfl, same⟩
      | some found =>
          refine ⟨⟨found, position⟩ :: located, rfl, ?_⟩
          simp [same]

/-- The tokens of a text are its first piece and the tokens of what follows it. -/
theorem piece {piece : Piece} (later : LexesTo dialect following tokens)
    (scans : Scans dialect piece.token following) :
    LexesTo dialect (piece.text ++ following) (piece.token :: tokens) := by
  obtain ⟨c, letters, spelling, scanned⟩ := scans
  have read : LexesTo dialect (c :: (letters ++ following)) (piece.token :: tokens) :=
    later.of_scan (by simp) scanned
  rw [Piece.text, spelling, List.append_assoc]
  cases piece.apart with
  | false => exact read
  | true =>
      have blank : Lexer.scan dialect ' ' (c :: (letters ++ following))
          = .ok (none, c :: (letters ++ following)) := rfl
      exact read.of_scan (Nat.le_refl _) blank

/-- Behind two signs that stand together nothing is read up to the end of the line. -/
theorem comment {rest : List Char} (oneLine : '\n' ∉ rest) :
    LexesTo dialect ('-' :: '-' :: rest) [] := by
  have blank : Lexer.afterLine rest = [] := by
    unfold Lexer.afterLine
    rw [List.dropWhile_eq_nil_iff.2]
    · rfl
    · intro c member
      exact bne_iff_ne.2 fun same => oneLine (same ▸ member)
  have scanned : Lexer.scan dialect '-' ('-' :: rest) = .ok (none, []) := by
    rw [← blank]
    cases dialect <;> rfl
  exact nil.of_scan (Nat.zero_le _) scanned

/-- Two signs for the size of a number are read as one where no name starts with them. -/
theorem doubleAt {rest : List Char} (later : LexesTo .postgres rest tokens) :
    LexesTo .postgres ('@' :: '@' :: rest) (.symbol .doubleAt :: tokens) := by
  have scanned : Lexer.scan .postgres '@' ('@' :: rest)
      = .ok (some (.symbol .doubleAt), rest) := by
    cases rest with
    | nil => rfl
    | cons c rest =>
        have notStarting : Dialect.postgres.startsName '@' = false := by decide
        show Lexer.scanNameSign .postgres '@' ['@', '@'] (c :: rest) .doubleAt = _
        unfold Lexer.scanNameSign
        split
        · rfl
        · rfl
        · rename_i same
          cases same
          simp [notStarting, Lexer.mark, Lexer.found]
  exact later.of_scan (Nat.le_succ _) scanned

end LexesTo

end Querent.Sql.Plain
