import Querent.Proofs.Sql.Plain.Spelling
import Querent.Sql.Printer

/-!
# Phrases

A phrase is a part of a canonical text.  Where two equal signs meet in it, they are not read as the
two tokens they were written for, and the text is read up to them only: behind two minus signs there
is a comment, and two signs for the size of a number are read as another sign.  Phrases are put
together to terms, clauses, queries and lists of queries, and what a text is read as is put together
with them.
-/

namespace Querent.Sql.Plain

/-- What two signs that meet are read as. -/
inductive Obstacle where
  /-- A comment, behind which the text ends. -/
  | comment
  | doubleAt
  deriving DecidableEq, Repr

/-- The token that is read in the place of two signs; none at the end of the text. -/
def Obstacle.token : Obstacle → Option Token
  | comment => none
  | doubleAt => some (.symbol .doubleAt)

/-- Where a row of pieces is cut off. -/
structure Cut where
  /-- The pieces that are read as their tokens. -/
  before : List Piece
  /-- What is read instead of the pieces behind them. -/
  obstacle : Obstacle

/-- A part of a canonical text. -/
@[ext]
structure Phrase where
  pieces : List Piece
  /-- Where the first two signs meet, if two meet. -/
  cut : Option Cut
  exists_behind : ∀ found ∈ cut, ∃ piece after, pieces = found.before ++ piece :: after

namespace Phrase

/-- A phrase in which no two signs meet. -/
def plain (pieces : List Piece) : Phrase where
  pieces := pieces
  cut := none
  exists_behind := by simp

/-- A phrase of a single token. -/
def one (apart : Bool) (token : Token) : Phrase :=
  plain [⟨apart, token⟩]

/-- A phrase whose first piece is a sign that meets another one. -/
def meeting (sign : Piece) (obstacle : Obstacle) (phrase : Phrase) : Phrase where
  pieces := sign :: phrase.pieces
  cut := some ⟨[], obstacle⟩
  exists_behind := by
    rintro _ ⟨⟩
    exact ⟨sign, phrase.pieces, rfl⟩

/-- A phrase that is cut off where the first two signs in either part of it meet. -/
def append (first second : Phrase) : Phrase where
  pieces := first.pieces ++ second.pieces
  cut := first.cut.or (second.cut.map fun cut => ⟨first.pieces ++ cut.before, cut.obstacle⟩)
  exists_behind := by
    intro cut member
    rw [Option.mem_def, Option.or_eq_some_iff, Option.map_eq_some_iff] at member
    rcases member with inFirst | ⟨_, found, inSecond, rfl⟩
    · obtain ⟨piece, after, same⟩ := first.exists_behind cut inFirst
      exact ⟨piece, after ++ second.pieces, by simp [same]⟩
    · obtain ⟨piece, after, same⟩ := second.exists_behind found inSecond
      exact ⟨piece, after, by simp [same]⟩

instance : Append Phrase :=
  ⟨append⟩

@[simp]
theorem pieces_plain (pieces : List Piece) : (plain pieces).pieces = pieces := rfl

@[simp]
theorem cut_plain (pieces : List Piece) : (plain pieces).cut = none := rfl

@[simp]
theorem pieces_one (apart : Bool) (token : Token) : (one apart token).pieces = [⟨apart, token⟩] :=
  rfl

@[simp]
theorem cut_one (apart : Bool) (token : Token) : (one apart token).cut = none := rfl

@[simp]
theorem pieces_meeting (sign : Piece) (obstacle : Obstacle) (phrase : Phrase) :
    (meeting sign obstacle phrase).pieces = sign :: phrase.pieces := rfl

@[simp]
theorem cut_meeting (sign : Piece) (obstacle : Obstacle) (phrase : Phrase) :
    (meeting sign obstacle phrase).cut = some ⟨[], obstacle⟩ := rfl

@[simp]
theorem pieces_append (first second : Phrase) :
    (first ++ second).pieces = first.pieces ++ second.pieces := rfl

theorem cut_append (first second : Phrase) : (first ++ second).cut
    = first.cut.or (second.cut.map fun cut => ⟨first.pieces ++ cut.before, cut.obstacle⟩) := rfl

@[simp]
theorem cut_append_eq_none_iff {first second : Phrase} :
    (first ++ second).cut = none ↔ first.cut = none ∧ second.cut = none := by
  simp [cut_append]

theorem append_nil (phrase : Phrase) : phrase ++ plain [] = phrase :=
  Phrase.ext (List.append_nil _) Option.or_none

theorem nil_append (phrase : Phrase) : plain [] ++ phrase = phrase := by
  refine Phrase.ext rfl ?_
  rw [cut_append, cut_plain, Option.none_or]
  exact Option.map_id'

theorem append_assoc (first second third : Phrase) :
    first ++ second ++ third = first ++ (second ++ third) := by
  refine Phrase.ext (List.append_assoc _ _ _) ?_
  simp only [cut_append, pieces_append]
  cases first.cut with
  | some cut => rfl
  | none =>
      cases second.cut with
      | some cut => rfl
      | none => cases third.cut <;> simp

/-- The tokens that a phrase was written for. -/
def tokens (phrase : Phrase) : List Token :=
  phrase.pieces.map (·.token)

@[simp]
theorem tokens_append (first second : Phrase) :
    (first ++ second).tokens = first.tokens ++ second.tokens :=
  List.map_append

/-- The canonical text of a phrase. -/
def text (phrase : Phrase) : List Char :=
  textOf phrase.pieces

@[simp]
theorem text_plain (pieces : List Piece) : (plain pieces).text = textOf pieces := rfl

@[simp]
theorem text_one (apart : Bool) (token : Token) :
    (one apart token).text = (if apart then [' '] else []) ++ token.text.toList :=
  List.append_nil _

@[simp]
theorem text_meeting (sign : Piece) (obstacle : Obstacle) (phrase : Phrase) :
    (meeting sign obstacle phrase).text = sign.text ++ phrase.text := rfl

@[simp]
theorem text_append (first second : Phrase) :
    (first ++ second).text = first.text ++ second.text :=
  textOf_append _ _

/-! ## What is read of a phrase -/

/-- The tokens that are read of a phrase, up to two signs that meet. -/
def shown (phrase : Phrase) : List Token :=
  match phrase.cut with
  | none => phrase.tokens
  | some cut => cut.before.map (·.token)

/-- What is read behind the tokens of a phrase where one of some tokens follows it. -/
def ends (phrase : Phrase) (later : List (Option Token)) : List (Option Token) :=
  match phrase.cut with
  | none => later
  | some cut => [cut.obstacle.token]

/-- What is read first where a phrase and one of some tokens follow. -/
def heads (phrase : Phrase) (later : List (Option Token)) : List (Option Token) :=
  match phrase.shown with
  | [] => phrase.ends later
  | token :: _ => [some token]

section Append

variable {first second : Phrase} {later : List (Option Token)} {cut : Cut}

theorem shown_of_uncut {phrase : Phrase} (uncut : phrase.cut = none) :
    phrase.shown = phrase.tokens := by
  simp [shown, uncut]

theorem shown_append_of_uncut (uncut : first.cut = none) :
    (first ++ second).shown = first.tokens ++ second.shown := by
  unfold shown
  rw [cut_append, uncut, Option.none_or]
  cases second.cut with
  | none => simp
  | some cut => simp [tokens]

theorem shown_append_of_cut (found : first.cut = some cut) :
    (first ++ second).shown = first.shown := by
  unfold shown
  rw [cut_append, found]
  rfl

theorem ends_append_of_uncut (uncut : first.cut = none) :
    (first ++ second).ends later = second.ends later := by
  unfold ends
  rw [cut_append, uncut, Option.none_or]
  cases second.cut <;> rfl

theorem ends_append_of_cut (found : first.cut = some cut) {behind : List (Option Token)} :
    (first ++ second).ends later = first.ends behind := by
  unfold ends
  rw [cut_append, found]
  rfl

theorem ends_of_uncut (uncut : first.cut = none) : first.ends later = later := by
  simp [ends, uncut]

theorem heads_append (first second : Phrase) (later : List (Option Token)) :
    (first ++ second).heads later = first.heads (second.heads later) := by
  cases cut : first.cut with
  | none =>
      unfold heads
      rw [shown_append_of_uncut cut, shown_of_uncut cut, ends_of_uncut cut,
        ends_append_of_uncut cut]
      cases first.tokens with
      | nil => rfl
      | cons token rest => rfl
  | some found =>
      unfold heads
      rw [shown_append_of_cut cut, ends_append_of_cut cut]

theorem heads_one (apart : Bool) (token : Token) (later : List (Option Token)) :
    (one apart token).heads later = [some token] := rfl

theorem heads_one_append (apart : Bool) (token : Token) (second : Phrase)
    (later : List (Option Token)) : (one apart token ++ second).heads later = [some token] := by
  rw [heads_append, heads_one]

theorem heads_mono (phrase : Phrase) {allowed : List (Option Token)} (subset : later ⊆ allowed) :
    phrase.heads later ⊆ phrase.heads allowed := by
  unfold heads
  cases phrase.shown with
  | nil =>
      unfold ends
      cases phrase.cut with
      | none => exact subset
      | some cut => exact List.Subset.refl _
  | cons token rest => exact List.Subset.refl _

end Append

/-! ## Phrases behind words -/

/-- Whether a phrase starts so that a word may stand before it. -/
def Breaks (phrase : Phrase) : Prop :=
  ∀ piece ∈ phrase.pieces.head?, ∀ more, Broken (piece.text ++ more)

theorem Breaks.broken {phrase : Phrase} (breaks : phrase.Breaks) {following : List Char}
    (broken : Broken following) : Broken (phrase.text ++ following) := by
  unfold text
  cases pieces : phrase.pieces with
  | nil => exact broken
  | cons piece rest =>
      rw [textOf_cons, List.append_assoc]
      exact breaks piece (by simp [pieces]) _

theorem Breaks.append {first second : Phrase} (breaks : first.Breaks) (later : second.Breaks) :
    (first ++ second).Breaks := by
  intro piece member
  rw [pieces_append] at member
  cases pieces : first.pieces with
  | nil =>
      rw [pieces, List.nil_append] at member
      exact later piece member
  | cons head rest =>
      rw [pieces, List.cons_append, List.head?_cons] at member
      exact breaks piece (by simpa [pieces] using member)

theorem breaks_of_apart {phrase : Phrase}
    (apart : ∀ piece ∈ phrase.pieces.head?, piece.apart = true) : phrase.Breaks := by
  intro piece member more
  rw [Piece.text, apart piece member]
  exact startsWith_cons.2 (by decide)

end Phrase

/-! ## Legible phrases -/

/-- Whether a token opens no bracket and is no arrow. -/
def IsTame (token : Token) : Prop :=
  token ∉ [Token.symbol .openBracket, .symbol .fatArrow]

instance (token : Token) : Decidable (IsTame token) :=
  inferInstanceAs (Decidable (_ ∉ _))

theorem IsTame.ne_openBracket {token : Token} (tame : IsTame token) :
    token ≠ .symbol .openBracket := by
  rintro rfl
  exact tame (by decide)

theorem IsTame.ne_fatArrow {token : Token} (tame : IsTame token) : token ≠ .symbol .fatArrow := by
  rintro rfl
  exact tame (by decide)

theorem isTame_word (word : Word) : IsTame (.word word) := by
  simp [IsTame]

namespace Phrase

variable {dialect : Dialect} {first second : Phrase}

/-- What is read behind a phrase: all that follows it, or what two signs are read as. -/
def Leaves (phrase : Phrase) (later rest : List Token) : Prop :=
  match phrase.cut with
  | none => rest = later
  | some cut => rest.head? = cut.obstacle.token

/-- Whether a text has tame tokens where a text with tame tokens follows it. -/
def Lexable (dialect : Dialect) (text : List Char) : Prop :=
  ∀ following later, Broken following → '\n' ∉ following → LexesTo dialect following later →
    (∀ token ∈ later, IsTame token) →
      ∃ tokens, LexesTo dialect (text ++ following) tokens ∧ ∀ token ∈ tokens, IsTame token

/-- Whether a phrase at the start of a text is read as its tokens, up to two signs that meet. -/
structure Clear (dialect : Dialect) (phrase : Phrase) : Prop where
  oneLine : '\n' ∉ phrase.text
  /-- What stands behind the first piece can be read if this is read with what is before it. -/
  tail : ∀ piece pieces, phrase.pieces = piece :: pieces → Lexable dialect (textOf pieces)
  lexes : ∀ following later, Broken following → '\n' ∉ following →
    LexesTo dialect following later → (∀ token ∈ later, IsTame token) →
      ∃ rest, LexesTo dialect (phrase.text ++ following) (phrase.shown ++ rest) ∧
        phrase.Leaves later rest ∧ ∀ token ∈ phrase.shown ++ rest, IsTame token

/-- Whether a phrase is read as its tokens behind a word too. -/
structure Legible (dialect : Dialect) (phrase : Phrase) : Prop extends Clear dialect phrase where
  breaks : phrase.Breaks

theorem leaves_append_of_uncut {later rest : List Token} (uncut : first.cut = none) :
    (first ++ second).Leaves later rest ↔ second.Leaves later rest := by
  unfold Leaves
  rw [cut_append, uncut, Option.none_or]
  cases second.cut <;> rfl

theorem leaves_append_of_cut {cut : Cut} {later behind rest : List Token}
    (found : first.cut = some cut) :
    (first ++ second).Leaves later rest ↔ first.Leaves behind rest := by
  unfold Leaves
  rw [cut_append, found]
  rfl

theorem Clear.lexable (clear : first.Clear dialect) : Lexable dialect first.text := by
  intro following later broken oneLine read tame
  obtain ⟨rest, whole, _, tameRest⟩ := clear.lexes following later broken oneLine read tame
  exact ⟨_, whole, tameRest⟩

theorem Lexable.append {text : List Char} (lexable : Lexable dialect text)
    (legible : second.Legible dialect) : Lexable dialect (text ++ second.text) := by
  intro following later broken oneLine read tame
  obtain ⟨behind, readSecond, tameSecond⟩ :=
    legible.lexable following later broken oneLine read tame
  have both : '\n' ∉ second.text ++ following := by
    rw [List.mem_append, not_or]
    exact ⟨legible.oneLine, oneLine⟩
  rw [List.append_assoc]
  exact lexable _ _ (legible.breaks.broken broken) both readSecond tameSecond

/-- Phrases are read one after another. -/
theorem Clear.append (clear : first.Clear dialect) (legible : second.Legible dialect) :
    (first ++ second).Clear dialect where
  oneLine := by
    rw [text_append, List.mem_append, not_or]
    exact ⟨clear.oneLine, legible.oneLine⟩
  tail := by
    intro piece pieces same
    rw [pieces_append] at same
    cases inFirst : first.pieces with
    | nil =>
        rw [inFirst] at same
        exact legible.tail piece pieces same
    | cons head rest =>
        rw [inFirst, List.cons_append] at same
        obtain ⟨rfl, rfl⟩ := List.cons.inj same
        rw [textOf_append]
        exact (clear.tail head rest inFirst).append legible
  lexes := by
    intro following later broken oneLine read tame
    obtain ⟨behind, readSecond, leaves, tameSecond⟩ :=
      legible.lexes following later broken oneLine read tame
    have both : '\n' ∉ second.text ++ following := by
      rw [List.mem_append, not_or]
      exact ⟨legible.oneLine, oneLine⟩
    obtain ⟨rest, readFirst, left, tameFirst⟩ :=
      clear.lexes _ _ (legible.breaks.broken broken) both readSecond tameSecond
    rw [text_append, List.append_assoc]
    cases cut : first.cut with
    | none =>
        have same : rest = second.shown ++ behind := by
          unfold Leaves at left
          rwa [cut] at left
        refine ⟨behind, ?_, (leaves_append_of_uncut cut).2 leaves, ?_⟩
        all_goals
          rw [shown_append_of_uncut cut, List.append_assoc, ← same, ← shown_of_uncut cut]
          assumption
    | some found =>
        refine ⟨rest, ?_, (leaves_append_of_cut cut).2 left, ?_⟩
        all_goals
          rw [shown_append_of_cut cut]
          assumption

/-- A token that is read before a phrase, whatever follows it, may stand before the phrase. -/
theorem Clear.cons {apart : Bool} {token : Token}
    (scans : ∀ following, Scans dialect token (second.text ++ following))
    (oneLine : '\n' ∉ token.text.toList) (tame : IsTame token) (clear : second.Clear dialect) :
    (one apart token ++ second).Clear dialect where
  oneLine := by
    rw [text_append, text_one]
    cases apart <;> simp [oneLine, clear.oneLine]
  tail := by
    rintro _ _ ⟨⟩
    exact clear.lexable
  lexes := by
    intro following later broken noBreak read tameLater
    obtain ⟨rest, readSecond, leaves, tameSecond⟩ :=
      clear.lexes following later broken noBreak read tameLater
    have whole := @LexesTo.piece dialect _ _ ⟨apart, token⟩ readSecond (scans following)
    refine ⟨rest, ?_, (leaves_append_of_uncut rfl).2 leaves, ?_⟩
    · rw [text_append, List.append_assoc, shown_append_of_uncut rfl]
      simpa [Piece.text, tokens] using whole
    · rw [shown_append_of_uncut rfl, tokens, pieces_one, List.append_assoc]
      exact List.forall_mem_cons.2 ⟨tame, tameSecond⟩

theorem Lexable.nothing : Lexable dialect [] :=
  fun _ later _ _ read tame => ⟨later, read, tame⟩

theorem Clear.nothing : (plain []).Clear dialect where
  oneLine := by simp
  tail := by simp
  lexes := fun _ later _ _ read tame => ⟨later, read, rfl, tame⟩

/-- A single token. -/
theorem Clear.one {apart : Bool} {token : Token}
    (scans : ∀ following, Broken following → Scans dialect token following)
    (oneLine : '\n' ∉ token.text.toList) (tame : IsTame token) :
    (one apart token).Clear dialect where
  oneLine := by
    rw [text_one]
    cases apart <;> simp [oneLine]
  tail := by
    rintro _ _ ⟨⟩
    exact .nothing
  lexes := by
    intro following later broken _ read tameLater
    have whole := @LexesTo.piece dialect _ _ ⟨apart, token⟩ read (scans following broken)
    refine ⟨later, ?_, rfl, List.forall_mem_cons.2 ⟨tame, tameLater⟩⟩
    rw [text_one, List.append_assoc]
    rw [Piece.text, List.append_assoc] at whole
    exact whole

theorem oneLine_meeting {apart : Bool} {sign : Token} {obstacle : Obstacle}
    (oneLine : '\n' ∉ sign.text.toList) (clear : second.Clear dialect) :
    '\n' ∉ (meeting ⟨apart, sign⟩ obstacle second).text := by
  rw [text_meeting, Piece.text]
  cases apart <;> simp [oneLine, clear.oneLine]

theorem tail_meeting {sign : Piece} {obstacle : Obstacle} (clear : second.Clear dialect) :
    ∀ piece pieces, (meeting sign obstacle second).pieces = piece :: pieces →
      Lexable dialect (textOf pieces) := by
  rintro _ _ ⟨⟩
  exact clear.lexable

/-- A blank before a text is not read. -/
theorem lexesTo_apart {apart : Bool} {text : List Char} {tokens : List Token}
    (read : LexesTo dialect text tokens) :
    LexesTo dialect ((if apart then [' '] else []) ++ text) tokens := by
  cases apart with
  | false => exact read
  | true =>
      have blank : Lexer.scan dialect ' ' text = .ok (none, text) := rfl
      exact read.of_scan (Nat.le_refl _) blank

/-- Two minus signs that meet open a comment. -/
theorem Clear.comment {apart : Bool} {pieces : List Piece}
    (same : second.pieces = ⟨false, .symbol .minus⟩ :: pieces) (clear : second.Clear dialect) :
    (meeting ⟨apart, .symbol .minus⟩ .comment second).Clear dialect where
  oneLine := oneLine_meeting (by decide) clear
  tail := tail_meeting clear
  lexes := by
    intro following later _ oneLine _ _
    have spelled : second.text ++ following = '-' :: (textOf pieces ++ following) := by
      rw [text, same]
      rfl
    have noBreak : '\n' ∉ textOf pieces ++ following := by
      have whole : '\n' ∉ second.text ++ following := by simp [clear.oneLine, oneLine]
      rw [spelled] at whole
      exact fun member => whole (List.mem_cons_of_mem _ member)
    have sign : (Token.symbol .minus).text.toList = ['-'] := rfl
    refine ⟨[], ?_, rfl, by simp [shown]⟩
    rw [text_meeting, Piece.text, List.append_assoc, List.append_assoc, spelled, sign]
    exact lexesTo_apart (.comment noBreak)

/-- Two signs for the size of a number that meet are read as another sign. -/
theorem Clear.doubleAt {apart : Bool} {pieces : List Piece}
    (same : second.pieces = ⟨false, .symbol .atSign⟩ :: pieces)
    (clear : second.Clear .postgres) :
    (meeting ⟨apart, .symbol .atSign⟩ .doubleAt second).Clear .postgres where
  oneLine := oneLine_meeting (by decide) clear
  tail := tail_meeting clear
  lexes := by
    intro following later broken oneLine read tame
    have spelled : second.text ++ following = '@' :: (textOf pieces ++ following) := by
      rw [text, same]
      rfl
    obtain ⟨rest, readBehind, tameBehind⟩ :=
      clear.tail _ _ same following later broken oneLine read tame
    have sign : (Token.symbol .atSign).text.toList = ['@'] := rfl
    refine ⟨.symbol .doubleAt :: rest, ?_, rfl, List.forall_mem_cons.2 ⟨by decide, tameBehind⟩⟩
    rw [text_meeting, Piece.text, List.append_assoc, List.append_assoc, spelled, sign]
    exact lexesTo_apart readBehind.doubleAt

namespace Legible

theorem append (legible : first.Legible dialect) (later : second.Legible dialect) :
    (first ++ second).Legible dialect where
  toClear := legible.toClear.append later
  breaks := legible.breaks.append later.breaks

theorem nothing : (plain []).Legible dialect where
  toClear := .nothing
  breaks := by simp [Breaks]

/-- What is clear and stands apart is legible. -/
theorem apart {token : Token} (clear : (Phrase.one true token ++ second).Clear dialect) :
    (Phrase.one true token ++ second).Legible dialect :=
  ⟨clear, breaks_of_apart (by simp)⟩

end Legible

/-! ## Words and symbols -/

theorem oneLine_keyword {word : Keyword} (isWord : IsWord word.toList) :
    '\n' ∉ (keywordToken word).text.toList := by
  rw [text_keywordToken]
  exact fun member => absurd (isWord.2.2 _ member) (by decide)

theorem clear_keyword {word : Keyword} (isWord : IsWord word.toList) (apart : Bool) :
    (one apart (keywordToken word)).Clear dialect :=
  .one (fun _ broken => scans_keyword dialect isWord broken) (oneLine_keyword isWord)
    (isTame_word _)

theorem legible_keyword {word : Keyword} (isWord : IsWord word.toList) :
    (one true (keywordToken word)).Legible dialect :=
  ⟨clear_keyword isWord true, breaks_of_apart (by simp)⟩

/-- A symbol that is read as itself everywhere may stand anywhere. -/
theorem clear_mark {mark : Symbol} (apart : Bool)
    (plain : mark ∈ [Symbol.openParen, .closeParen, .comma, .semicolon, .times]) :
    (one apart (.symbol mark)).Clear dialect := by
  simp only [List.mem_cons, List.not_mem_nil, or_false] at plain
  refine .one (fun following _ => scans_mark dialect following ?_) ?_ ?_
  all_goals rcases plain with rfl | rfl | rfl | rfl | rfl <;> decide

theorem legible_mark {mark : Symbol} (plain : mark ∈ [Symbol.comma, .semicolon, .closeParen]) :
    (one false (.symbol mark)).Legible dialect := by
  refine ⟨clear_mark false ?_, ?_⟩
  · revert mark
    decide
  · rintro _ ⟨⟩ more
    simp only [List.mem_cons, List.not_mem_nil, or_false] at plain
    rcases plain with rfl | rfl | rfl
    all_goals exact startsWith_cons.2 (by decide)

theorem clear_openParen (apart : Bool) (clear : second.Clear dialect) :
    (one apart (.symbol .openParen) ++ second).Clear dialect :=
  .cons (fun _ => scans_mark dialect _ (by decide)) (by decide) (by decide) clear

/-- What is clear is clear in parentheses. -/
theorem clear_parens (apart : Bool) (clear : second.Clear dialect) :
    (one apart (.symbol .openParen) ++ (second ++ one false (.symbol .closeParen))).Clear
      dialect :=
  clear_openParen apart (clear.append (legible_mark (by decide)))

/-- What is clear is legible in parentheses, with a blank before them or none. -/
theorem legible_parens (apart : Bool) (clear : second.Clear dialect) :
    (one apart (.symbol .openParen) ++ (second ++ one false (.symbol .closeParen))).Legible
      dialect := by
  refine ⟨clear_parens apart clear, ?_⟩
  rintro _ ⟨⟩ more
  cases apart <;> exact startsWith_cons.2 (by decide)

/-! ## Words and lists -/

/-- A row of keywords, each with a blank before it. -/
def words (keywords : List Keyword) : Phrase :=
  plain (keywords.map fun word => ⟨true, keywordToken word⟩)

@[simp]
theorem cut_words {keywords : List Keyword} : (words keywords).cut = none := rfl

@[simp]
theorem text_words (keywords : List Keyword) :
    (words keywords).text = keywords.flatMap fun word => ' ' :: word.toList := by
  simp [words, textOf, Piece.text, List.flatMap_map]

theorem heads_words_cons (word : Keyword) (others : List Keyword) (later : List (Option Token)) :
    (words (word :: others)).heads later = [some (keywordToken word)] := rfl

theorem heads_words_append (word : Keyword) (others : List Keyword) (second : Phrase)
    (later : List (Option Token)) :
    (words (word :: others) ++ second).heads later = [some (keywordToken word)] := by
  rw [heads_append, heads_words_cons]

theorem legible_words {keywords : List Keyword}
    (areWords : ∀ word ∈ keywords, IsWord word.toList) : (words keywords).Legible dialect := by
  induction keywords with
  | nil => exact .nothing
  | cons word rest ih =>
      rw [List.forall_mem_cons] at areWords
      exact (legible_keyword areWords.1).append (ih areWords.2)

/-- Phrases with a symbol between them. -/
def separated (mark : Symbol) : List Phrase → Phrase
  | [] => plain []
  | [phrase] => phrase
  | phrase :: second :: rest =>
    phrase ++ (one false (.symbol mark) ++ separated mark (second :: rest))

section Separated

variable {mark : Symbol} {phrases : List Phrase}

theorem legible_separated
    (plain : mark ∈ [Symbol.comma, .semicolon, .closeParen])
    (legible : ∀ phrase ∈ phrases, phrase.Legible dialect) :
    (separated mark phrases).Legible dialect := by
  induction phrases with
  | nil => exact .nothing
  | cons phrase rest ih =>
      rw [List.forall_mem_cons] at legible
      cases rest with
      | nil => exact legible.1
      | cons second rest => exact legible.1.append ((legible_mark plain).append (ih legible.2))

/-- The first of several phrases need not start with a blank. -/
theorem clear_separated_cons {first : Phrase}
    (plain : mark ∈ [Symbol.comma, .semicolon, .closeParen]) (clear : first.Clear dialect)
    (legible : ∀ phrase ∈ phrases, phrase.Legible dialect) :
    (separated mark (first :: phrases)).Clear dialect := by
  cases phrases with
  | nil => exact clear
  | cons second rest =>
      exact clear.append ((legible_mark plain).append (legible_separated plain legible))

/-- Phrases are written with a symbol and a blank between them, whatever stands before the first. -/
theorem text_separated_cons {α : Type} {items : List α} {phrase : α → Phrase} {string : α → String}
    {first : Phrase} {text : String} {before : List Char}
    (sameFirst : first.text = before ++ text.toList)
    (same : ∀ item ∈ items, (phrase item).text = ' ' :: (string item).toList) :
    (separated mark (first :: items.map phrase)).text
      = before ++ ((mark.text ++ " ").intercalate (text :: items.map string)).toList := by
  induction items generalizing first text before with
  | nil => simpa [separated] using sameFirst
  | cons item rest ih =>
      rw [List.forall_mem_cons] at same
      have behind := @ih (phrase item) (string item) [' '] same.1 same.2
      rw [List.map_cons, separated, text_append, text_append, sameFirst, behind, List.map_cons,
        String.intercalate_cons_cons]
      simp

theorem text_separated {α : Type} {items : List α} {phrase : α → Phrase} {string : α → String}
    (same : ∀ item ∈ items, (phrase item).text = ' ' :: (string item).toList)
    (nonempty : items ≠ []) :
    (separated mark (items.map phrase)).text
      = ' ' :: ((mark.text ++ " ").intercalate (items.map string)).toList := by
  cases items with
  | nil => contradiction
  | cons item rest =>
      rw [List.forall_mem_cons] at same
      exact @text_separated_cons mark α rest phrase string (phrase item) (string item) [' '] same.1
        same.2

theorem cut_separated_eq_none_iff :
    (separated mark phrases).cut = none ↔ ∀ phrase ∈ phrases, phrase.cut = none := by
  induction phrases with
  | nil => simp [separated]
  | cons phrase rest ih =>
      cases rest with
      | nil => simp [separated]
      | cons second rest =>
          rw [separated, cut_append_eq_none_iff, cut_append_eq_none_iff, ih]
          simp

theorem heads_separated_cons (first : Phrase) (others : List Phrase) (later : List (Option Token)) :
    ∃ behind, (separated mark (first :: others)).heads later = first.heads behind := by
  cases others with
  | nil => exact ⟨later, rfl⟩
  | cons second rest => exact ⟨_, heads_append _ _ _⟩

end Separated

/-- Phrases one after another. -/
def concat : List Phrase → Phrase
  | [] => plain []
  | phrase :: rest => phrase ++ concat rest

theorem legible_concat {phrases : List Phrase}
    (legible : ∀ phrase ∈ phrases, phrase.Legible dialect) : (concat phrases).Legible dialect := by
  induction phrases with
  | nil => exact .nothing
  | cons phrase rest ih =>
      rw [List.forall_mem_cons] at legible
      exact legible.1.append (ih legible.2)

theorem cut_concat_eq_none_iff {phrases : List Phrase} :
    (concat phrases).cut = none ↔ ∀ phrase ∈ phrases, phrase.cut = none := by
  induction phrases with
  | nil => simp [concat]
  | cons phrase rest ih => simp [concat, ih]

/-- Texts without anything between them are written one after another. -/
theorem toList_intercalate_empty {α : Type} (items : List α) (strings : α → String) :
    ("".intercalate (items.map strings)).toList
      = items.flatMap fun item => (strings item).toList := by
  induction items with
  | nil => rfl
  | cons item rest ih =>
      cases rest with
      | nil => simp
      | cons second rest =>
          rw [List.map_cons] at ih ⊢
          rw [List.map_cons, String.intercalate_cons_cons, String.toList_append, ih,
            String.append_empty, List.flatMap_cons]
          rfl

theorem text_concat {α : Type} {items : List α} {phrases : α → Phrase} {strings : α → String}
    (same : ∀ item ∈ items, (phrases item).text = (strings item).toList) :
    (concat (items.map phrases)).text = ("".intercalate (items.map strings)).toList := by
  rw [toList_intercalate_empty]
  induction items with
  | nil => rfl
  | cons item rest ih =>
      rw [List.forall_mem_cons] at same
      rw [List.map_cons, concat, text_append, same.1, ih same.2, List.flatMap_cons]

/-- A phrase behind some words, if there is one. -/
def clause (keywords : List Keyword) : Option Phrase → Phrase
  | none => plain []
  | some phrase => words keywords ++ phrase

theorem legible_clause {keywords : List Keyword} {given : Option Phrase}
    (areWords : ∀ word ∈ keywords, IsWord word.toList)
    (legible : ∀ phrase ∈ given, phrase.Legible dialect) :
    (clause keywords given).Legible dialect := by
  cases given with
  | none => exact .nothing
  | some phrase => exact (legible_words areWords).append (legible phrase rfl)

theorem text_clause {α : Type} {keywords : List Keyword} (introduction : String)
    {given : Option α} {phrases : α → Phrase} {strings : α → String}
    (introduces : (words keywords).text ++ [' '] = introduction.toList)
    (same : ∀ found ∈ given, (phrases found).text = ' ' :: (strings found).toList) :
    (clause keywords (given.map phrases)).text
      = (optionClause introduction (given.map strings)).toList := by
  cases given with
  | none => rfl
  | some found =>
      have written := same found rfl
      rw [Option.map_some, Option.map_some, clause, text_append, written, optionClause,
        String.toList_append, ← introduces, List.append_assoc, List.singleton_append]

theorem cut_clause_eq_none_iff {keywords : List Keyword} {given : Option Phrase} :
    (clause keywords given).cut = none ↔ ∀ phrase ∈ given, phrase.cut = none := by
  cases given with
  | none => simp [clause]
  | some phrase => simp [clause]

/-- A list of phrases behind some words, or nothing for an empty list. -/
def listClause (keywords : List Keyword) : List Phrase → Phrase
  | [] => plain []
  | phrase :: rest => words keywords ++ separated .comma (phrase :: rest)

theorem legible_listClause {keywords : List Keyword} {phrases : List Phrase}
    (areWords : ∀ word ∈ keywords, IsWord word.toList)
    (legible : ∀ phrase ∈ phrases, phrase.Legible dialect) :
    (listClause keywords phrases).Legible dialect := by
  cases phrases with
  | nil => exact .nothing
  | cons phrase rest =>
      exact (legible_words areWords).append (legible_separated (by decide) legible)

theorem text_listClause {α : Type} {keywords : List Keyword} (introduction : String)
    {items : List α} {phrases : α → Phrase} {strings : α → String}
    (introduces : (words keywords).text ++ [' '] = introduction.toList)
    (same : ∀ item ∈ items, (phrases item).text = ' ' :: (strings item).toList) :
    (listClause keywords (items.map phrases)).text
      = (Sql.listClause introduction (items.map strings)).toList := by
  cases items with
  | nil => rfl
  | cons item rest =>
      have written := @text_separated .comma α (item :: rest) phrases strings same
        (List.cons_ne_nil _ _)
      rw [List.map_cons] at written
      rw [List.map_cons, List.map_cons, listClause, text_append, written, Sql.listClause,
        List.isEmpty_cons, if_neg Bool.false_ne_true, String.toList_append, ← introduces,
        List.append_assoc, List.singleton_append]
      rfl

theorem heads_listClause (word : Keyword) (others : List Keyword) (phrases : List Phrase)
    (later : List (Option Token)) :
    (listClause (word :: others) phrases).heads later ⊆ some (keywordToken word) :: later := by
  cases phrases with
  | nil => exact List.subset_cons_self _ _
  | cons phrase rest =>
      rw [listClause, heads_words_append]
      exact List.cons_subset.2 ⟨List.mem_cons_self, List.nil_subset _⟩

/-- How a phrase and what follows it may start, given what may follow. -/
theorem heads_append_subset {first second : Phrase} {later middle allowed : List (Option Token)}
    (behind : second.heads later ⊆ middle) (before : first.heads middle ⊆ allowed) :
    (first ++ second).heads later ⊆ allowed := by
  rw [heads_append]
  exact List.Subset.trans (first.heads_mono behind) before

theorem cut_listClause_eq_none_iff {keywords : List Keyword} {phrases : List Phrase} :
    (listClause keywords phrases).cut = none ↔ ∀ phrase ∈ phrases, phrase.cut = none := by
  cases phrases with
  | nil => simp [listClause]
  | cons phrase rest => simp [listClause, cut_separated_eq_none_iff]

end Phrase

end Querent.Sql.Plain
