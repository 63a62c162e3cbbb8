import Querent.Proofs.Sql.Plain.Understanding

/-!
# How plain terms start

Most questions that are asked of a text where a term may stand are answered by its first tokens:
that it is no wildcard, no query and none of the words that mean something there, and whether it
starts with a sign.  A term that is followed by an operator starts as it did before.
-/

namespace Querent.Sql.Plain

open Querent.Sql.Parser

/-! ## The first token -/

/-- The symbols that a plain term may start with. -/
def startMarks : List Symbol :=
  [.openParen, .plus, .minus, .atSign, .tilde, .doubleExclamation, .squareRoot, .cubeRoot]

/-- How the words are spelled that a plain term may start with. -/
def startWords : List Keyword :=
  ["true", "false", "NULL", "NOT", "CASE", "CAST", "TRY_CAST", "SAFE_CAST", "EXISTS"]

/-- The tokens that may start a plain term. -/
inductive Starts : Token → Prop where
  | name {name : Ident} (free : IsFree name) : Starts (nameToken name)
  | number (digits : String) : Starts (.number digits false)
  | text (value : String) : Starts (.quoted .single value)
  | mark {mark : Symbol} (known : mark ∈ startMarks) : Starts (.symbol mark)
  | word {word : Keyword} (known : word ∈ startWords) : Starts (keywordToken word)

/-- What may be read where a plain term may stand: its first token, or what is read of two signs. -/
inductive StartsTerm : Option Token → Prop where
  | token {token : Token} (starts : Starts token) : StartsTerm (some token)
  | obstacle (obstacle : Obstacle) : StartsTerm obstacle.token

theorem isKeyword_nameToken {name : Ident} (free : IsFree name) {word : Keyword}
    (special : word ∈ reserved) : (nameToken name).isKeyword word = false := by
  have differs := free word special
  simpa [Token.isKeyword, Token.keyword?, nameToken] using differs

namespace Starts

variable {token : Token}

/-- No reserved word but those of terms starts a plain term. -/
theorem isKeyword_eq_false (starts : Starts token) {word : Keyword} (special : word ∈ reserved)
    (other : word ∉ termWords) : token.isKeyword word = false := by
  cases starts with
  | name free => exact isKeyword_nameToken free special
  | word known =>
      have spelled : ∀ spelling ∈ startWords,
          ∃ word ∈ termWords, (keywordToken spelling).keyword? = some word := by decide
      obtain ⟨found, listed, same⟩ := spelled _ known
      have differs : found ≠ word := by
        rintro rfl
        exact other listed
      simpa [Token.isKeyword, same] using differs
  | _ => rfl

theorem ne_symbol (starts : Starts token) {mark : Symbol} (other : mark ∉ startMarks) :
    token ≠ .symbol mark := by
  cases starts with
  | name free => simp [nameToken]
  | word known => simp [keywordToken]
  | mark known =>
      rintro ⟨⟩
      exact other known
  | _ => rintro ⟨⟩

theorem eq_exists_of_isKeyword (starts : Starts token)
    (spells : token.isKeyword "EXISTS" = true) : token = keywordToken "EXISTS" := by
  cases starts with
  | name free =>
      rw [isKeyword_nameToken free (by decide)] at spells
      cases spells
  | word known =>
      have only : ∀ spelling ∈ startWords, (keywordToken spelling).isKeyword "EXISTS" = true →
          spelling = "EXISTS" := by decide
      rw [only _ known spells]
  | _ => cases spells

end Starts

namespace StartsTerm

variable {head : Option Token}

theorem isKeyword_eq_false (starts : StartsTerm head) {word : Keyword} (special : word ∈ reserved)
    (other : word ∉ termWords) : head.any (·.isKeyword word) = false := by
  cases starts with
  | token starts => exact starts.isKeyword_eq_false special other
  | obstacle obstacle => cases obstacle <;> rfl

theorem ne_symbol (starts : StartsTerm head) {mark : Symbol} (other : mark ∉ startMarks)
    (notDouble : mark ≠ .doubleAt) : head ≠ some (.symbol mark) := by
  cases starts with
  | token starts => exact fun same => starts.ne_symbol other (Option.some.inj same)
  | obstacle obstacle =>
      cases obstacle with
      | comment => simp [Obstacle.token]
      | doubleAt =>
          rintro ⟨⟩
          exact notDouble rfl

end StartsTerm

/-! ## Wildcards -/

/-- Whether names with periods between them end without a wildcard. -/
def PathEnds : List Token → Prop
  | .symbol .period :: .word _ :: rest => PathEnds rest
  | first :: _ => first ≠ .symbol .period
  | [] => True

/-- Whether a row of tokens starts with no wildcard, not even after the name of a table. -/
def Unstarred : List Token → Prop
  | .word _ :: rest => PathEnds rest
  | .quoted .single _ :: rest => rest.head? ≠ some (.symbol .period)
  | first :: _ => first ≠ .symbol .times
  | [] => True

theorem pathEnds_of_ne {tokens : List Token} (other : tokens.head? ≠ some (.symbol .period)) :
    PathEnds tokens := by
  unfold PathEnds
  split
  · exact absurd rfl other
  · rintro rfl
    exact other rfl
  · trivial

/-- A token that is neither a wildcard nor before a period starts no wildcard. -/
theorem unstarred_cons {first : Token} {others : List Token} (notTimes : first ≠ .symbol .times)
    (notPeriod : others.head? ≠ some (.symbol .period)) : Unstarred (first :: others) := by
  unfold Unstarred
  split
  · rename_i same
    cases same
    exact pathEnds_of_ne notPeriod
  · rename_i same
    cases same
    exact notPeriod
  · rename_i same
    cases same
    exact notTimes
  · trivial

/-- What is read of two signs that meet starts no wildcard. -/
theorem unstarred_of_obstacle {obstacle : Obstacle} {rest : List Token}
    (found : rest.head? = obstacle.token) : Unstarred rest := by
  cases rest with
  | nil => trivial
  | cons first others =>
      cases obstacle with
      | comment => cases found
      | doubleAt =>
          cases found
          show Token.symbol .doubleAt ≠ .symbol .times
          decide

/-! ## The first character -/

/--
Whether a text starts with no character that would grow together with a sign before it, unless it
starts with this sign itself.
-/
def Opens (first : Option Token) (text : List Char) : Prop :=
  ∃ c rest, text = c :: rest ∧ c ∉ ['>', '?', '*'] ∧
    (c = '-' → first = some (.symbol .minus)) ∧ (c = '@' → first = some (.symbol .atSign))

theorem Opens.append {first : Option Token} {text : List Char} (opens : Opens first text)
    (more : List Char) : Opens first (text ++ more) := by
  obtain ⟨c, rest, rfl, plain⟩ := opens
  exact ⟨c, rest ++ more, rfl, plain⟩

/-- What starts with none of the characters of signs may stand behind any sign. -/
theorem opens_of_plain {c : Char} {rest : List Char} (plain : c ∉ ['>', '?', '*', '-', '@'])
    (first : Option Token) : Opens first (c :: rest) := by
  simp only [List.mem_cons, List.not_mem_nil, or_false, not_or] at plain
  obtain ⟨greater, question, star, minus, sign⟩ := plain
  exact ⟨c, rest, rfl, by simp [greater, question, star], fun same => absurd same minus,
    fun same => absurd same sign⟩

/-! ## What a term starts with -/

/-- What holds of the start of a term, whose first token may be asked for. -/
structure Fronts (dialect : Dialect) (first : Option Token) (phrase : Bool → Phrase) : Prop where
  clear : ∀ apart, (phrase apart).Clear dialect
  pieces : ∀ apart, ∃ token rest, (phrase apart).pieces = ⟨apart, token⟩ :: rest ∧
    Starts token ∧ (∀ found ∈ first, token = found) ∧
      (token = keywordToken "EXISTS" → first = some token)
  opens : Opens first (phrase false).text
  unstarred : ∀ apart later rest, rest.head? ∈ (phrase apart).ends later →
    some (.symbol .period) ∉ later → Unstarred ((phrase apart).shown ++ rest)

/-- A phrase is read from its first piece on, unless two signs meet there. -/
theorem Phrase.head_cases {phrase : Phrase} {piece : Piece} {rest : List Piece}
    (same : phrase.pieces = piece :: rest) {later : List (Option Token)} {head : Option Token}
    (member : head ∈ phrase.heads later) :
    head = some piece.token ∨ ∃ obstacle : Obstacle, head = obstacle.token := by
  unfold Phrase.heads at member
  cases cut : phrase.cut with
  | none =>
      rw [Phrase.shown_of_uncut cut, Phrase.tokens, same] at member
      exact .inl (List.mem_singleton.1 member)
  | some found =>
      obtain ⟨before, obstacle⟩ := found
      obtain ⟨_, _, behind⟩ := phrase.exists_behind _ cut
      rw [Phrase.shown, Phrase.ends, cut] at member
      cases before with
      | nil => exact .inr ⟨obstacle, List.mem_singleton.1 member⟩
      | cons first others =>
          rw [same] at behind
          cases behind
          exact .inl (List.mem_singleton.1 member)

/-- What is read of a phrase and behind it starts with one of its heads. -/
theorem Phrase.head_mem_heads {phrase : Phrase} {later : List (Option Token)} {rest : List Token}
    (behind : rest.head? ∈ phrase.ends later) :
    (phrase.shown ++ rest).head? ∈ phrase.heads later := by
  unfold Phrase.heads
  cases phrase.shown with
  | nil => exact behind
  | cons token others => exact List.mem_singleton_self _

namespace Fronts

variable {dialect : Dialect} {first : Option Token} {phrase : Bool → Phrase} {second : Phrase}

theorem legible (fronts : Fronts dialect first phrase) : (phrase true).Legible dialect := by
  obtain ⟨token, rest, same, _⟩ := fronts.pieces true
  exact ⟨fronts.clear true, Phrase.breaks_of_apart (by simp [same])⟩

/-- Where a term stands its first token is read, or what is read of two signs. -/
theorem head_cases (fronts : Fronts dialect first phrase) {apart : Bool}
    {later : List (Option Token)} {head : Option Token}
    (member : head ∈ (phrase apart).heads later) :
    (∃ token, head = some token ∧ Starts token ∧
        (token = keywordToken "EXISTS" → first = some token)) ∨
      ∃ obstacle : Obstacle, head = obstacle.token := by
  obtain ⟨token, rest, same, starts, _, exist⟩ := fronts.pieces apart
  rcases Phrase.head_cases same member with rfl | obstacle
  · exact .inl ⟨token, rfl, starts, exist⟩
  · exact .inr obstacle

theorem heads (fronts : Fronts dialect first phrase) (apart : Bool) (later : List (Option Token)) :
    ∀ head ∈ (phrase apart).heads later, StartsTerm head := by
  intro head member
  rcases fronts.head_cases member with ⟨token, rfl, starts, _⟩ | ⟨obstacle, rfl⟩
  · exact .token starts
  · exact .obstacle obstacle

theorem shown_ne_period (fronts : Fronts dialect first phrase) (apart : Bool)
    {later : List (Option Token)} : some (.symbol .period) ∉ (phrase apart).heads later :=
  fun member => (fronts.heads apart later _ member).ne_symbol (by decide) (by decide) rfl

/-- Where an operator or the like follows, a term starts as it did before. -/
theorem append (fronts : Fronts dialect first phrase) (legible : second.Legible dialect)
    (noPeriod : ∀ later, some (.symbol .period) ∉ later →
      some (.symbol .period) ∉ second.heads later) :
    Fronts dialect first fun apart => phrase apart ++ second where
  clear := fun apart => (fronts.clear apart).append legible
  pieces := by
    intro apart
    obtain ⟨token, rest, same, starts⟩ := fronts.pieces apart
    exact ⟨token, rest ++ second.pieces, by simp [same], starts⟩
  opens := by
    rw [Phrase.text_append]
    exact fronts.opens.append _
  unstarred := by
    intro apart later rest behind plain
    cases cut : (phrase apart).cut with
    | none =>
        rw [Phrase.ends_append_of_uncut cut] at behind
        rw [Phrase.shown_append_of_uncut cut, List.append_assoc, ← Phrase.shown_of_uncut cut]
        refine fronts.unstarred apart (second.heads later) _ ?_ (noPeriod later plain)
        rw [Phrase.ends_of_uncut cut]
        exact Phrase.head_mem_heads behind
    | some found =>
        rw [Phrase.ends_append_of_cut cut] at behind
        rw [Phrase.shown_append_of_cut cut]
        exact fronts.unstarred apart later rest behind plain

/-- A token that may start a term starts whatever it is written before. -/
theorem lead {token : Token} (starts : Starts token)
    (clear : ∀ apart, (Phrase.one apart token ++ second).Clear dialect)
    (opens : Opens first token.text.toList) (found : ∀ found ∈ first, token = found)
    (exist : token = keywordToken "EXISTS" → first = some token)
    (noPeriod : ∀ later, some (.symbol .period) ∉ later →
      some (.symbol .period) ∉ second.heads later) :
    Fronts dialect first fun apart => .one apart token ++ second where
  clear := clear
  pieces := fun apart => ⟨token, second.pieces, rfl, starts, found, exist⟩
  opens := by
    rw [Phrase.text_append, Phrase.text_one]
    exact opens.append _
  unstarred := by
    intro apart later rest behind plain
    rw [Phrase.ends_append_of_uncut rfl] at behind
    rw [Phrase.shown_append_of_uncut rfl]
    refine unstarred_cons (starts.ne_symbol (by decide)) ?_
    rintro same
    exact noPeriod later plain (same ▸ Phrase.head_mem_heads behind)

/-- A single token that may start a term. -/
theorem one {token : Token} (starts : Starts token)
    (clear : ∀ apart, (Phrase.one apart token).Clear dialect)
    (opens : Opens none token.text.toList) (other : token ≠ keywordToken "EXISTS") :
    Fronts dialect none (Phrase.one · token) := by
  have whole := @lead dialect none (.plain []) token starts
    (fun apart => by rw [Phrase.append_nil]; exact clear apart) opens (by simp)
    (fun same => absurd same other) fun _ absent => absent
  simpa only [Phrase.append_nil] using whole

end Fronts

end Querent.Sql.Plain
