import Querent.Proofs.Sql.Plain.Steps

/-!
# Understanding phrases

A parser understands a phrase as a value when it reads the tokens of the phrase as this value,
whatever follows, and fails where two signs that meet in the phrase cut it off.  What a parser that
is made up of others understands is made up of what these understand.
-/

namespace Querent.Sql.Plain

open Querent.Sql.Parser

theorem Ahead.mono {first second : List (Option Token)} {tokens : List Located}
    (ahead : Ahead first tokens) (subset : first ⊆ second) : Ahead second tokens :=
  subset ahead

namespace Phrase

/-- Whether some tokens are what is read of a phrase, and others are read behind it. -/
structure Spelled (phrase : Phrase) (later : List (Option Token)) (located rest : List Located) :
    Prop where
  same : located.map (·.token) = phrase.shown
  ahead : Ahead (phrase.ends later) rest
  tame : Tame (located ++ rest)

/-- What comes of reading a phrase as a value: the value, or a fault where the phrase is cut off. -/
def Gives {α : Type} (phrase : Phrase) (value : α) (rest : List Located)
    (result : Except SyntaxError (α × List Located)) : Prop :=
  match phrase.cut with
  | none => result = .ok (value, rest)
  | some _ => ∃ error, result = .error error

section

variable {α : Type} {phrase first second : Phrase} {later behind : List (Option Token)}
  {located rest : List Located} {value : α} {result : Except SyntaxError (α × List Located)}
  {cut : Cut}

theorem gives_of_uncut (uncut : phrase.cut = none) :
    phrase.Gives value rest result ↔ result = .ok (value, rest) := by
  simp [Gives, uncut]

theorem gives_of_cut (found : phrase.cut = some cut) :
    phrase.Gives value rest result ↔ ∃ error, result = .error error := by
  simp [Gives, found]

/-- The next token is the first one of a phrase. -/
theorem Spelled.heads (spelled : phrase.Spelled later located rest) :
    Ahead (phrase.heads later) (located ++ rest) := by
  obtain ⟨same, ahead, _⟩ := spelled
  unfold Phrase.heads
  cases shown : phrase.shown with
  | nil =>
      rw [shown] at same
      cases List.map_eq_nil_iff.1 same
      exact ahead
  | cons token others =>
      rw [shown] at same
      obtain ⟨position, others, rfl, _⟩ := exists_of_map_eq_cons same
      exact List.mem_cons_self

theorem Spelled.mono (spelled : phrase.Spelled later located rest) (subset : later ⊆ behind) :
    phrase.Spelled behind located rest := by
  refine ⟨spelled.same, ?_, spelled.tame⟩
  have ahead := spelled.ahead
  unfold ends at ahead ⊢
  cases cut : phrase.cut with
  | none =>
      rw [cut] at ahead
      exact ahead.mono subset
  | some found =>
      rw [cut] at ahead
      exact ahead

/-- Behind the tokens of an uncut phrase those of the next one are read. -/
theorem Spelled.split (spelled : (first ++ second).Spelled later located rest)
    (uncut : first.cut = none) :
    ∃ before after, located = before ++ after ∧ before.length = first.pieces.length ∧
      first.Spelled (second.heads later) before (after ++ rest) ∧
        second.Spelled later after rest := by
  obtain ⟨same, ahead, tame⟩ := spelled
  rw [shown_append_of_uncut uncut, List.map_eq_append_iff] at same
  rw [ends_append_of_uncut uncut] at ahead
  obtain ⟨before, after, rfl, sameFirst, sameSecond⟩ := same
  rw [List.append_assoc] at tame
  have behind : second.Spelled later after rest := ⟨sameSecond, ahead, tame.behind⟩
  refine ⟨before, after, rfl, ?_, ⟨?_, ?_, tame⟩, behind⟩
  · rw [← List.length_map (·.token), sameFirst, tokens, List.length_map]
  · rw [sameFirst, shown_of_uncut uncut]
  · rw [ends_of_uncut uncut]
    exact behind.heads

/-- What follows a phrase that is cut off is never reached. -/
theorem Spelled.ofCut (spelled : (first ++ second).Spelled later located rest)
    (found : first.cut = some cut) : first.Spelled behind located rest := by
  obtain ⟨same, ahead, tame⟩ := spelled
  rw [shown_append_of_cut found] at same
  rw [ends_append_of_cut found] at ahead
  exact ⟨same, ahead, tame⟩

theorem gives_append_of_uncut (uncut : first.cut = none) :
    (first ++ second).Gives value rest result ↔ second.Gives value rest result := by
  unfold Gives
  rw [cut_append, uncut, Option.none_or]
  cases second.cut <;> rfl

theorem gives_append_of_cut (found : first.cut = some cut) :
    (first ++ second).Gives value rest result ↔ ∃ error, result = .error error := by
  unfold Gives
  rw [cut_append, found]
  rfl

end

end Phrase

/--
Whether a parser reads a phrase as a value, up to two signs that meet, where no more than so many
tokens are read of the phrase.
-/
def Understands {α : Type} (size : Nat) (context : Context) (later : List (Option Token))
    (parser : Parser α) (phrase : Phrase) (value : α) : Prop :=
  ∀ located rest, located.length ≤ size → phrase.Spelled later located rest →
    phrase.Gives value rest (parser context (located ++ rest))

namespace Understands

variable {α β : Type} {size : Nat} {context : Context} {later behind : List (Option Token)}
  {parser : Parser α} {next : α → Parser β} {phrase second : Phrase} {value : α} {result : β}

/-- What is understood among more tokens is understood among fewer. -/
theorem mono (understands : Understands size context later parser phrase value) {fewer : Nat}
    {allowed : List (Option Token)} (enough : fewer ≤ size) (subset : allowed ⊆ later) :
    Understands fewer context allowed parser phrase value :=
  fun located rest few spelled =>
    understands located rest (few.trans enough) (spelled.mono subset)

/-- What is understood before some tokens is understood before fewer ones. -/
theorem before (understands : Understands size context later parser phrase value)
    {allowed : List (Option Token)} (subset : allowed ⊆ later) :
    Understands size context allowed parser phrase value :=
  understands.mono (Nat.le_refl _) subset

/-- A phrase in which no two signs meet is understood by a parser that reads its tokens. -/
theorem plain {pieces : List Piece}
    (read : ∀ located rest, located.map (·.token) = pieces.map (·.token) → Ahead later rest →
      Tame (located ++ rest) → parser context (located ++ rest) = .ok (value, rest)) :
    Understands size context later parser (.plain pieces) value :=
  fun located rest _ spelled => read located rest spelled.same spelled.ahead spelled.tame

/-- A parser that reads nothing understands nothing. -/
theorem nothing
    (read : ∀ tokens, Ahead later tokens → parser context tokens = .ok (value, tokens)) :
    Understands size context later parser (.plain []) value := by
  refine plain fun located rest same ahead _ => ?_
  cases List.map_eq_nil_iff.1 same
  exact read rest ahead

/-- A single token is understood by a parser that reads it. -/
theorem one {apart : Bool} {token : Token}
    (read : ∀ position rest, Ahead later rest → Tame (⟨token, position⟩ :: rest) →
      parser context (⟨token, position⟩ :: rest) = .ok (value, rest)) :
    Understands size context later parser (.one apart token) value := by
  refine plain fun located rest same ahead tame => ?_
  obtain ⟨position, rfl⟩ := exists_of_map_eq_singleton same
  exact read position rest ahead tame

/-- Phrases are understood one after another, the second among the tokens that are left. -/
theorem stepWithin (understands : Understands size context later parser phrase value)
    (follows : second.heads behind ⊆ later)
    (continues : ∀ fewer, fewer ≤ size → (phrase.pieces ≠ [] → fewer < size) →
      Understands fewer context behind (next value) second result) :
    Understands size context behind (parser >>= next) (phrase ++ second) result := by
  intro located rest few spelled
  cases cut : phrase.cut with
  | none =>
      obtain ⟨before, after, rfl, filled, spelledFirst, spelledSecond⟩ := spelled.split cut
      rw [List.length_append] at few
      have fewer : phrase.pieces ≠ [] → after.length < size := fun some => by
        have positive := List.length_pos_iff.2 some
        omega
      have read := (Phrase.gives_of_uncut cut).1
        (understands before (after ++ rest) (by omega) (spelledFirst.mono follows))
      rw [Phrase.gives_append_of_uncut cut, List.append_assoc, bind_of_ok read]
      exact continues after.length (by omega) fewer after rest (Nat.le_refl _) spelledSecond
  | some found =>
      obtain ⟨error, failed⟩ := (Phrase.gives_of_cut cut).1
        (understands located rest few (spelled.ofCut cut))
      exact (Phrase.gives_append_of_cut cut).2 ⟨error, bind_of_error failed⟩

theorem step (understands : Understands size context later parser phrase value)
    (follows : second.heads behind ⊆ later)
    (continues : Understands size context behind (next value) second result) :
    Understands size context behind (parser >>= next) (phrase ++ second) result :=
  understands.stepWithin follows fun _ enough _ => continues.mono enough (List.Subset.refl _)

/-- What any parser that agrees with another one does with a phrase. -/
theorem congr {other : Parser α}
    (understands : Understands size context later other phrase value)
    (same : ∀ tokens, Ahead (phrase.heads later) tokens → Tame tokens →
      parser context tokens = other context tokens) :
    Understands size context later parser phrase value := by
  intro located rest few spelled
  rw [same _ spelled.heads spelled.tame]
  exact understands located rest few spelled

/-- A parser that reads nothing before a phrase leaves it to the next one. -/
theorem skip (read : ∀ tokens, Ahead (phrase.heads behind) tokens →
      parser context tokens = .ok (value, tokens))
    (continues : Understands size context behind (next value) phrase result) :
    Understands size context behind (parser >>= next) phrase result :=
  continues.congr fun tokens ahead _ => bind_of_ok (read tokens ahead)

/-- Looking at what is left leaves a phrase to the next parser. -/
theorem look (found : ∀ tokens, ∃ value, parser context tokens = .ok (value, tokens))
    (continues : ∀ value, Understands size context behind (next value) phrase result) :
    Understands size context behind (parser >>= next) phrase result := by
  intro located rest few spelled
  obtain ⟨value, read⟩ := found (located ++ rest)
  rw [bind_of_ok read]
  exact continues value located rest few spelled

/-- A loop that may take as many steps as tokens are left is never short of steps. -/
theorem counted {loop : Nat → Parser α}
    (continues : ∀ fewer steps, fewer ≤ size → fewer < steps →
      Understands fewer context later (loop steps) phrase value) :
    Understands size context later
      ((get : Parser (List Located)) >>= fun tokens => loop (tokens.length + 1)) phrase value := by
  intro located rest few spelled
  have enough : located.length < (located ++ rest).length + 1 := by
    rw [List.length_append]
    omega
  rw [bind_of_ok get_eq]
  exact continues _ _ few enough located rest (Nat.le_refl _) spelled

/-- Pieces that lead a parser to another one, which understands the phrase behind them. -/
theorem leading {pieces : List Piece} (other : Parser α) (filled : pieces ≠ [])
    (same : ∀ located, located.map (·.token) = pieces.map (·.token) → ∀ tokens,
      Ahead (second.heads later) tokens → Tame tokens →
        parser context (located ++ tokens) = other context tokens)
    (continues : ∀ fewer, fewer < size → Understands fewer context later other second value) :
    Understands size context later parser (.plain pieces ++ second) value := by
  intro located rest few spelled
  obtain ⟨before, after, rfl, length, spelledFirst, spelledSecond⟩ := spelled.split rfl
  have some : before.length ≠ 0 := by
    rw [length]
    exact fun nothing => filled (List.length_eq_zero_iff.1 nothing)
  rw [List.length_append] at few
  rw [Phrase.gives_append_of_uncut rfl, List.append_assoc,
    same before spelledFirst.same _ spelledSecond.heads spelledSecond.tame]
  exact continues after.length (by omega) after rest (Nat.le_refl _) spelledSecond

/-- A token that leads a parser to another one, which understands the phrase behind it. -/
theorem leadingOne {apart : Bool} {token : Token} (other : Parser α)
    (same : ∀ position tokens, Ahead (second.heads later) tokens → Tame tokens →
      parser context (⟨token, position⟩ :: tokens) = other context tokens)
    (continues : ∀ fewer, fewer < size → Understands fewer context later other second value) :
    Understands size context later parser (.one apart token ++ second) value := by
  refine .leading other (List.cons_ne_nil _ _) (fun located spelled tokens ahead tame => ?_)
    continues
  obtain ⟨position, rfl⟩ := exists_of_map_eq_singleton spelled
  exact same position tokens ahead tame

/-- What is made of a value is understood from the same phrase. -/
theorem last (understands : Understands size context later parser phrase value)
    (same : next value = Pure.pure result) :
    Understands size context later (parser >>= next) phrase result := by
  intro located rest few spelled
  cases cut : phrase.cut with
  | none =>
      have read := (Phrase.gives_of_uncut cut).1 (understands located rest few spelled)
      rw [Phrase.gives_of_uncut cut, bind_of_ok read, same]
      rfl
  | some found =>
      obtain ⟨error, failed⟩ := (Phrase.gives_of_cut cut).1 (understands located rest few spelled)
      exact (Phrase.gives_of_cut cut).2 ⟨error, bind_of_error failed⟩

/-- What is made of a value without reading on is understood from the same phrase. -/
theorem finish (understands : Understands size context later parser phrase value)
    (read : ∀ tokens, Ahead later tokens → next value context tokens = .ok (result, tokens)) :
    Understands size context later (parser >>= next) phrase result := by
  rw [← Phrase.append_nil phrase]
  exact understands.step (List.Subset.refl _) (.nothing read)

/-- What is read inside one more level of nesting. -/
theorem nested {budget : Nat} (room : context.budget = budget + 1)
    (understands : Understands size { context with budget := budget } later parser phrase value) :
    Understands size context later (Parser.nested parser) phrase value := by
  have same (tokens : List Located) :
      Parser.nested parser context tokens = parser { context with budget := budget } tokens := by
    unfold Parser.nested
    rw [room]
  intro located rest few spelled
  rw [same]
  exact understands located rest few spelled

/-- What a parser reads may be taken further by a function. -/
theorem map (understands : Understands size context later parser phrase value) (f : α → β) :
    Understands size context later (f <$> parser) phrase (f value) :=
  @last α β size context later parser (fun value => Pure.pure (f value)) phrase value (f value)
    understands rfl

theorem pure : Understands size context later (Pure.pure value) (.plain []) value :=
  nothing fun _ _ => rfl

/-! ## Words -/

/-- Whether the token that spells a keyword is read as this keyword. -/
theorem isKeyword_keywordToken {word : Keyword}
    (known : Keyword.ofSpelling? word.toList = some word) :
    (keywordToken word).isKeyword word = true := by
  simp [keywordToken, Token.isKeyword, Token.keyword?, Word.plain, known]

theorem words {keywords : List Keyword}
    (known : ∀ word ∈ keywords, Keyword.ofSpelling? word.toList = some word) :
    Understands size context later (Parser.keywords keywords) (.words keywords) true := by
  have read : ∀ located rest : List Located,
      located.map (·.token) = keywords.map keywordToken →
        afterKeywords keywords (located ++ rest) = some rest := by
    induction keywords with
    | nil =>
        intro located rest spelled
        cases List.map_eq_nil_iff.1 spelled
        rfl
    | cons word others ih =>
        intro located rest spelled
        rw [List.forall_mem_cons] at known
        obtain ⟨position, tokens, rfl, spelledOthers⟩ := exists_of_map_eq_cons spelled
        have spells := isKeyword_keywordToken known.1
        simp only [List.cons_append, afterKeywords, spells, if_true]
        exact ih known.2 tokens rest spelledOthers
  refine plain fun located rest spelled _ _ => ?_
  rw [List.map_map] at spelled
  rw [Parser.keywords, bind_of_ok get_eq, read located rest spelled]
  rfl

theorem keyword {word : Keyword} {apart : Bool}
    (known : Keyword.ofSpelling? word.toList = some word) :
    Understands size context later (Parser.keyword word) (.one apart (keywordToken word)) true :=
  one fun _ _ _ _ => keyword_of_eq (isKeyword_keywordToken known)

theorem expectKeyword {word : Keyword} {apart : Bool}
    (known : Keyword.ofSpelling? word.toList = some word) :
    Understands size context later (Parser.expectKeyword word) (.one apart (keywordToken word))
      () :=
  (keyword known).last rfl

/-- A keyword that may be left out is read where it is given. -/
theorem given {word : Keyword} {given : Bool}
    (known : Keyword.ofSpelling? word.toList = some word)
    (absent : ∀ head ∈ later, head.any (·.isKeyword word) = false) :
    Understands size context later (Parser.keyword word) (.words (if given then [word] else []))
      given := by
  cases given with
  | true => exact keyword known
  | false => exact nothing fun tokens ahead => keyword_of_ne (absent _ ahead)

/-- A value behind a keyword, if there is one. -/
theorem after {word : Keyword} {item : Parser α} {given : Option α} {phrases : α → Phrase}
    (known : Keyword.ofSpelling? word.toList = some word)
    (absent : ∀ head ∈ later, head.any (·.isKeyword word) = false)
    (each : ∀ found ∈ given, Understands size context later item (phrases found) found) :
    Understands size context later (Parser.after word item)
      (.clause [word] (given.map phrases)) given := by
  cases given with
  | none => exact nothing fun tokens ahead => after_of_ne (absent _ ahead)
  | some found =>
      exact (@keyword size context _ word true known).step (List.Subset.refl _)
        ((each found rfl).last rfl)

/-! ## Lists -/

theorem symbol {mark : Symbol} {apart : Bool} :
    Understands size context later (Parser.symbol mark) (.one apart (.symbol mark)) true :=
  one fun _ _ _ _ => symbol_of_eq

theorem expectSymbol {mark : Symbol} {apart : Bool} :
    Understands size context later (Parser.expectSymbol mark) (.one apart (.symbol mark)) () :=
  symbol.last rfl

/-- What is understood up to a closing parenthesis is understood in parentheses. -/
theorem parenthesized {opens closes : Bool}
    (understands : ∀ fewer, fewer < size →
      Understands fewer context [some (.symbol .closeParen)] parser phrase value) :
    Understands size context later (Parser.parenthesized parser)
      (.one opens (.symbol .openParen) ++ (phrase ++ .one closes (.symbol .closeParen))) value := by
  refine expectSymbol.stepWithin (List.Subset.refl _) fun fewer _ less => ?_
  exact (understands fewer (less (List.cons_ne_nil _ _))).step (List.Subset.refl _)
    (expectSymbol.last rfl)

section CommaSeparated

variable {γ : Type} {items : List γ} {phrases : γ → Phrase} {values : γ → α}

theorem commaSeparatedUpTo
    (each : ∀ item ∈ items, Understands size context (some (.symbol .comma) :: later) parser
      (phrases item) (values item))
    (noComma : some (.symbol .comma) ∉ later) (nonempty : items ≠ [])
    {fewer steps : Nat} (few : fewer ≤ size) (enough : fewer < steps) :
    Understands fewer context later (Parser.commaSeparatedUpTo parser steps)
      (.separated .comma (items.map phrases)) (items.map values) := by
  induction items generalizing fewer steps with
  | nil => contradiction
  | cons item others ih =>
      rw [List.forall_mem_cons] at each
      obtain ⟨steps, rfl⟩ : ∃ less, steps = less + 1 := ⟨steps - 1, by omega⟩
      have first := each.1.mono few (List.Subset.refl _)
      rw [Parser.commaSeparatedUpTo]
      cases others with
      | nil =>
          rw [List.map_singleton, Phrase.separated, ← Phrase.append_nil (phrases item)]
          refine first.step (List.subset_cons_self _ _) ?_
          exact .skip (fun tokens ahead => symbol_of_ahead ahead noComma) .pure
      | cons second others =>
          have follows : [some (Token.symbol .comma)] ⊆ some (.symbol .comma) :: later := by simp
          rw [List.map_cons, List.map_cons, Phrase.separated]
          refine first.step (by rw [Phrase.heads_one_append]; exact follows)
            (symbol.stepWithin (List.Subset.refl _) fun less _ fewer => ?_)
          have less := fewer (List.cons_ne_nil _ _)
          exact (ih each.2 (List.cons_ne_nil _ _) (by omega) (by omega)).last rfl

/-- A list of items is understood item by item. -/
theorem commaSeparated
    (each : ∀ item ∈ items, Understands size context (some (.symbol .comma) :: later) parser
      (phrases item) (values item))
    (noComma : some (.symbol .comma) ∉ later) (nonempty : items ≠ []) :
    Understands size context later (Parser.commaSeparated parser)
      (.separated .comma (items.map phrases)) (items.map values) :=
  counted fun _ _ few enough => commaSeparatedUpTo each noComma nonempty few enough

/-- A list of items that are read as themselves. -/
theorem list {items : List α} {phrases : α → Phrase}
    (each : ∀ item ∈ items, Understands size context (some (.symbol .comma) :: later) parser
      (phrases item) item)
    (noComma : some (.symbol .comma) ∉ later) (nonempty : items ≠ []) :
    Understands size context later (Parser.commaSeparated parser)
      (.separated .comma (items.map phrases)) items := by
  have read := @commaSeparated α size context later parser α items phrases id each noComma nonempty
  rwa [List.map_id] at read

end CommaSeparated

/-- A list of items behind some words, or nothing for an empty list. -/
theorem listAfter {word : Keyword} {others : List Keyword} {items : List α}
    {phrases : α → Phrase}
    (known : ∀ known ∈ word :: others, Keyword.ofSpelling? known.toList = some known)
    (absent : ∀ head ∈ later, head.any (·.isKeyword word) = false)
    (noComma : some (.symbol .comma) ∉ later)
    (each : ∀ item ∈ items, Understands size context (some (.symbol .comma) :: later) parser
      (phrases item) item) :
    Understands size context later
      (Parser.listAfter (word :: others) (Parser.commaSeparated parser))
      (.listClause (word :: others) (items.map phrases)) items := by
  cases items with
  | nil => exact nothing fun tokens ahead => listAfter_of_ne (absent _ ahead)
  | cons first rest =>
      exact (words known).step (List.Subset.refl _)
        (Understands.list each noComma (List.cons_ne_nil _ _))

section Many

variable {starts : List (Option Token)} {item : Parser (Option α)} {items : List α}
  {phrases : α → Phrase}

theorem heads_concat_subset
    (heads : ∀ found ∈ items, (phrases found).heads starts ⊆ starts) (ends : later ⊆ starts) :
    (Phrase.concat (items.map phrases)).heads later ⊆ starts := by
  induction items with
  | nil => exact ends
  | cons first others ih =>
      rw [List.forall_mem_cons] at heads
      rw [List.map_cons, Phrase.concat, Phrase.heads_append]
      exact List.Subset.trans ((phrases first).heads_mono (ih heads.2)) heads.1

theorem manyUpTo
    (each : ∀ found ∈ items, Understands size context starts item (phrases found) (some found))
    (filled : ∀ found ∈ items, (phrases found).pieces ≠ [])
    (heads : ∀ found ∈ items, (phrases found).heads starts ⊆ starts) (ends : later ⊆ starts)
    (stop : ∀ tokens, Ahead later tokens → item context tokens = .ok (none, tokens))
    {fewer steps : Nat} (few : fewer ≤ size) (enough : fewer < steps) :
    Understands fewer context later (Parser.manyUpTo item steps) (.concat (items.map phrases))
      items := by
  induction items generalizing fewer steps with
  | nil =>
      obtain ⟨steps, rfl⟩ : ∃ less, steps = less + 1 := ⟨steps - 1, by omega⟩
      rw [Parser.manyUpTo]
      exact .skip stop .pure
  | cons first others ih =>
      rw [List.forall_mem_cons] at each filled heads
      obtain ⟨steps, rfl⟩ : ∃ less, steps = less + 1 := ⟨steps - 1, by omega⟩
      rw [Parser.manyUpTo]
      refine (each.1.mono few (List.Subset.refl _)).stepWithin (heads_concat_subset heads.2 ends)
        fun less _ fewer => ?_
      have less := fewer filled.1
      exact (ih each.2 filled.2 heads.2 (by omega) (by omega)).last rfl

/-- Items are understood one after another, up to the first that is absent. -/
theorem many
    (each : ∀ found ∈ items, Understands size context starts item (phrases found) (some found))
    (filled : ∀ found ∈ items, (phrases found).pieces ≠ [])
    (heads : ∀ found ∈ items, (phrases found).heads starts ⊆ starts) (ends : later ⊆ starts)
    (stop : ∀ tokens, Ahead later tokens → item context tokens = .ok (none, tokens)) :
    Understands size context later (Parser.many item) (.concat (items.map phrases)) items :=
  counted fun _ _ few enough => manyUpTo each filled heads ends stop few enough

end Many

end Understands

end Querent.Sql.Plain
