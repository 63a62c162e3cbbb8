import Querent.Proofs.Sql.Plain.Operators

/-!
# Operands and what follows them

An operand is read up to its first operator, and a loop reads one operator after another.  A phrase
*reaches* as far as it can when the loop goes on behind it with the value of the phrase.  A term is
spelled by its phrases, which are the canonical text of its expression, are read as its tokens, and
reach as far as the expression does.
-/

namespace Querent.Sql.Plain

open Querent.Sql.Parser

/-! ## Loops of operators -/

/--
Whether a rule reads a phrase and leaves its loop with the value of the phrase, unless two signs
meet in the phrase.
-/
def Reaches {α : Type} (size : Nat) (context : Context) (rule : Parser α)
    (loop : Nat → α → Parser α) (later : List (Option Token)) (phrase : Phrase) (value : α) :
    Prop :=
  ∀ located rest, located.length ≤ size → phrase.Spelled later located rest →
    match phrase.cut with
    | none => ∃ steps, rest.length < steps ∧
        rule context (located ++ rest) = loop steps value context rest
    | some _ => ∃ error, rule context (located ++ rest) = .error error

namespace Reaches

variable {α : Type} {size : Nat} {context : Context} {rule : Parser α} {loop : Nat → α → Parser α}
  {later behind : List (Option Token)} {phrase : Phrase} {value result : α}

theorem uncut (reaches : Reaches size context rule loop later phrase value)
    (plain : phrase.cut = none) {located rest : List Located} (few : located.length ≤ size)
    (spelled : phrase.Spelled later located rest) :
    ∃ steps, rest.length < steps ∧
      rule context (located ++ rest) = loop steps value context rest := by
  have reached := reaches located rest few spelled
  rw [plain] at reached
  exact reached

theorem ofCut (reaches : Reaches size context rule loop later phrase value) {cut : Cut}
    (found : phrase.cut = some cut) {located rest : List Located} (few : located.length ≤ size)
    (spelled : phrase.Spelled later located rest) :
    ∃ error, rule context (located ++ rest) = .error error := by
  have reached := reaches located rest few spelled
  rw [found] at reached
  exact reached

/-- The first operand reaches up to the first operator. -/
theorem of_first {first : Parser α}
    (understands : Understands size context later first phrase value)
    (starts : rule = first >>= fun found =>
      (get : Parser (List Located)) >>= fun tokens => loop (tokens.length + 1) found) :
    Reaches size context rule loop later phrase value := by
  intro located rest few spelled
  have given := understands located rest few spelled
  rw [starts]
  cases cut : phrase.cut with
  | none =>
      rw [Phrase.gives_of_uncut cut] at given
      refine ⟨rest.length + 1, Nat.lt_succ_self _, ?_⟩
      rw [bind_of_ok given, bind_of_ok get_eq]
  | some found =>
      rw [Phrase.gives_of_cut cut] at given
      obtain ⟨error, failed⟩ := given
      exact ⟨error, bind_of_error failed⟩

/-- What any rule that agrees with another one does with a phrase. -/
theorem congr {other : Parser α} (reaches : Reaches size context other loop later phrase value)
    (same : ∀ tokens, Ahead (phrase.heads later) tokens →
      rule context tokens = other context tokens) :
    Reaches size context rule loop later phrase value := by
  intro located rest few spelled
  rw [same _ spelled.heads]
  exact reaches located rest few spelled

/-- One step of the loop reads the next operator with what follows it. -/
theorem following {pieces : List Piece} {inner : Phrase} {next : Parser α}
    (reaches : Reaches size context rule loop later phrase value) (filled : pieces ≠ [])
    (loose : (Phrase.plain pieces ++ inner).heads behind ⊆ later)
    (step : ∀ located, located.map (·.token) = pieces.map (·.token) → ∀ tokens steps,
      loop (steps + 1) value context (located ++ tokens)
        = (next >>= loop steps) context (located ++ tokens))
    (understands : Understands size context behind next (.plain pieces ++ inner) result) :
    Reaches size context rule loop behind (phrase ++ (.plain pieces ++ inner)) result := by
  intro located rest few spelled
  cases cut : phrase.cut with
  | some found =>
      obtain ⟨error, failed⟩ := reaches.ofCut cut few (spelled.ofCut cut)
      rw [Phrase.cut_append, cut]
      exact ⟨error, failed⟩
  | none =>
      obtain ⟨before, after, rfl, _, spelledFirst, spelledSecond⟩ := spelled.split cut
      rw [List.length_append] at few
      obtain ⟨steps, enough, reached⟩ := reaches.uncut cut (by omega) (spelledFirst.mono loose)
      have given := understands after rest (by omega) spelledSecond
      obtain ⟨operator, others, rfl, length, spelledPieces, _⟩ := spelledSecond.split rfl
      have some : 0 < operator.length := by
        rw [length]
        exact List.length_pos_iff.2 filled
      rw [List.length_append, List.length_append] at enough
      obtain ⟨steps, rfl⟩ : ∃ fewer, steps = fewer + 1 := ⟨steps - 1, by omega⟩
      have onward := step operator spelledPieces.same (others ++ rest) steps
      rw [List.append_assoc] at given reached
      rw [List.append_assoc, List.append_assoc, Phrase.cut_append, cut, Option.none_or, reached,
        onward]
      cases inside : (Phrase.plain pieces ++ inner).cut with
      | none =>
          rw [Phrase.gives_of_uncut inside] at given
          exact ⟨steps, by omega, bind_of_ok given⟩
      | some found =>
          rw [Phrase.gives_of_cut inside] at given
          obtain ⟨error, failed⟩ := given
          exact ⟨error, bind_of_error failed⟩

/-- A phrase is read as a whole where the loop stops behind it. -/
theorem complete (reaches : Reaches size context rule loop later phrase value)
    (subset : behind ⊆ later)
    (stops : ∀ steps tokens, Ahead behind tokens →
      loop steps value context tokens = .ok (value, tokens)) :
    Understands size context behind rule phrase value := by
  intro located rest few spelled
  cases cut : phrase.cut with
  | none =>
      obtain ⟨steps, _, reached⟩ := reaches.uncut cut few (spelled.mono subset)
      have ahead := spelled.ahead
      rw [Phrase.ends_of_uncut cut] at ahead
      rw [Phrase.gives_of_uncut cut, reached, stops steps rest ahead]
  | some found =>
      exact (Phrase.gives_of_cut cut).2 (reaches.ofCut cut few (spelled.mono subset))

end Reaches

/-! ## What follows an operand -/

/-- What may follow an operand without taking over its end. -/
def looser (bound : Nat) : List (Option Token) :=
  followers.filter fun head => binding head ≤ bound

section Looser

variable {bound : Nat}

theorem mem_looser {head : Option Token} :
    head ∈ looser bound ↔ head ∈ followers ∧ binding head ≤ bound := by
  simp [looser]

theorem looser_subset_followers : looser bound ⊆ followers :=
  fun _ member => (mem_looser.1 member).1

theorem looser_subset {more : Nat} (le : bound ≤ more) : looser bound ⊆ looser more := by
  intro head member
  obtain ⟨follows, loose⟩ := mem_looser.1 member
  exact mem_looser.2 ⟨follows, loose.trans le⟩

theorem closers_subset_looser : closers ⊆ looser bound := by
  intro head member
  have loose : ∀ head ∈ closers, binding head ≤ 0 := by decide
  refine mem_looser.2 ⟨?_, (loose head member).trans (Nat.zero_le _)⟩
  exact List.mem_append_left _ (List.mem_append_left _ member)

/-- The token of an operator takes over what binds less tightly than the operator. -/
theorem operator_mem_looser {operator : BinaryOperator} (known : operator ∈ operators)
    (loose : precedenceOf operator ≤ bound) : some (operatorToken operator) ∈ looser bound := by
  have bindings : ∀ operator ∈ operators,
      binding (some (operatorToken operator)) = precedenceOf operator := by decide
  refine mem_looser.2 ⟨List.mem_append_left _ (List.mem_append_right _ ?_), ?_⟩
  · exact List.mem_map_of_mem known
  · rw [bindings operator known]
    exact loose

theorem comparison_mem_looser {word : Keyword} (known : word ∈ comparisonWords)
    (loose : binding (some (keywordToken word)) ≤ bound) :
    some (keywordToken word) ∈ looser bound :=
  mem_looser.2 ⟨List.mem_append_right _ (List.mem_map_of_mem known), loose⟩

end Looser

/-! ## Spelling an expression -/

/-- The leading part of an operand. -/
def leadingRule (grammar : Grammar) : Parser Expr :=
  leadingWith grammar (intervalRule grammar)

/-- The operators after an operand, in at most so many steps. -/
def operatorsRule (grammar : Grammar) (least steps : Nat) (operand : Expr) : Parser Expr :=
  operatorsUpTo grammar (intervalRule grammar) nextPrecedence least steps operand

/-- Whether a phrase is read as an operand up to the operators that may follow it. -/
abbrev ReachesTerm (size level : Nat) (context : Context) (least bound : Nat) (phrase : Phrase)
    (value : Expr) : Prop :=
  Reaches size context (operandRule (grammarOfDepth level) least)
    (operatorsRule (grammarOfDepth level) least) (looser bound) phrase value

/--
How an expression is written, with or without a blank before it, and that it is read as a whole
where operators must bind more tightly than a precedence, within so many levels of nesting.
-/
structure Spells (dialect : Dialect) (depth least : Nat) (value : Expr) (phrase : Bool → Phrase) :
    Prop extends Fronts dialect (opening value) phrase where
  text : ∀ apart, (phrase apart).text = (if apart then [' '] else []) ++ value.sql.toList
  reaches : ∀ size level context apart, context.dialect = dialect → 8 * size ≤ level →
    depth ≤ context.budget →
      ReachesTerm size level context least (edge value) (phrase apart) value

namespace Spells

variable {dialect : Dialect} {depth least : Nat} {value : Expr} {phrase : Bool → Phrase}
  {size level : Nat} {context : Context}

theorem text_true (spells : Spells dialect depth least value phrase) :
    (phrase true).text = ' ' :: value.sql.toList :=
  spells.text true

/-- An operand is complete where the next operator binds too loosely. -/
theorem operand (spells : Spells dialect depth least value phrase) (apart : Bool)
    (speaks : context.dialect = dialect) (enough : 8 * size < level)
    (room : depth ≤ context.budget) :
    Understands size context (looser (min (edge value) least))
      ((grammarOfDepth level).operand least) (phrase apart) value := by
  obtain ⟨less, rfl⟩ : ∃ less, level = less + 1 := ⟨level - 1, by omega⟩
  refine (spells.reaches size less context apart speaks (by omega) room).complete
    (looser_subset (Nat.min_le_left _ _)) fun steps tokens ahead => ?_
  obtain ⟨follows, loose⟩ := mem_looser.1 ahead
  exact operatorsUpTo_of_le follows (loose.trans (Nat.min_le_right _ _)) steps value

/-- An expression opens a level of nesting. -/
theorem expr (spells : Spells dialect depth 0 value phrase) (apart : Bool)
    (speaks : context.dialect = dialect) (enough : 8 * size < level)
    (room : depth < context.budget) {later : List (Option Token)} (closes : later ⊆ closers) :
    Understands size context later (grammarOfDepth level).expr (phrase apart) value := by
  obtain ⟨less, rfl⟩ : ∃ less, level = less + 1 := ⟨level - 1, by omega⟩
  obtain ⟨budget, same⟩ : ∃ budget, context.budget = budget + 1 := ⟨context.budget - 1, by omega⟩
  have inside : depth ≤ budget := by omega
  have read := @spells.operand dialect depth 0 value phrase size (less + 1)
    { context with budget := budget } apart speaks enough inside
  exact .nested same (read.before (List.Subset.trans closes closers_subset_looser))

end Spells

/-! ## What the first token leads to -/

section Leading

variable {level : Nat} {context : Context} {interval : Parser Expr} {tokens : List Located}
  {position : Position} {least bound size : Nat} {value : Expr} {phrase : Phrase}

theorem collated_of_ahead {expr : Expr} (ahead : Ahead followers tokens) :
    collated expr context tokens = .ok (expr, tokens) := by
  have others : ∀ head ∈ followers, head.any (·.isKeyword "COLLATE") = false := by decide
  exact collated_of_ne (others _ ahead)

/-- What is read in front of a collation is complete where no collation follows. -/
theorem Understands.collated {parser : Parser Expr}
    (understands : Understands size context (looser bound) parser phrase value) :
    Understands size context (looser bound) (parser >>= Plain.collated) phrase value :=
  understands.finish fun _ ahead => collated_of_ahead (ahead.mono looser_subset_followers)

/-- The leading part of an operand reaches up to the first operator. -/
theorem ReachesTerm.of_leading
    (understands : Understands size context (looser bound) (leadingRule (grammarOfDepth level))
      phrase value) : ReachesTerm size level context least bound phrase value :=
  .of_first understands rfl

theorem bind_congr_of_eq {α β : Type} {first second : Parser α} {next : α → Parser β}
    {before : List Located} (same : first context tokens = second context before) :
    (first >>= next) context tokens = (second >>= next) context before := by
  show (first context tokens >>= fun result => next result.1 context result.2) = _
  rw [same]
  rfl

/-- A phrase whose first token leads to a rule for what is behind it. -/
theorem ReachesTerm.of_rule {apart : Bool} {token : Token} (rule : Parser Expr)
    (leads : ∀ position tokens, Ahead (phrase.heads (looser bound)) tokens → Tame tokens →
      leadingRule (grammarOfDepth level) context (⟨token, position⟩ :: tokens)
        = (rule >>= collated) context tokens)
    (understands : ∀ fewer, fewer < size →
      Understands fewer context (looser bound) rule phrase value) :
    ReachesTerm size level context least bound (.one apart token ++ phrase) value :=
  .of_leading (.leadingOne (rule >>= Plain.collated) leads fun fewer less =>
    (understands fewer less).collated)

theorem leadingWith_keyword {word : Keyword}
    (free : ∀ known ∈ typeWords, (Word.plain word.toList).keyword ≠ some known)
    (tame : Tame tokens) :
    leadingWith (grammarOfDepth level) interval context (⟨keywordToken word, position⟩ :: tokens)
      = (wordRule (grammarOfDepth level) interval (.plain word.toList)
        (⟨keywordToken word, position⟩ :: tokens) >>= collated) context tokens := by
  rw [keywordToken, leadingWith_word (typedText_of_word free tame)]

end Leading

end Querent.Sql.Plain
