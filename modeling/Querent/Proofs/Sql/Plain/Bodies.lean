import Querent.Proofs.Sql.Plain.Selections

/-!
# Bodies of queries

A query is a selection, another query in parentheses, or several of them with operators between
them.  Operators are read like those between terms: a body is read up to its first operator, and a
loop reads one operator after another.
-/

namespace Querent.Sql.Plain

open Querent.Sql.Parser

/-! ## Operators between queries -/

/-- The operator between queries that a token spells. -/
def setOperatorOf (head : Option Token) : Option SetOperator :=
  match head.bind Token.keyword? with
  | some "UNION" => some .union
  | some "EXCEPT" => some .except
  | some "INTERSECT" => some .intersect
  | _ => none

/-- How tightly the operator that a token spells binds the queries around it. -/
def setBinding (head : Option Token) : Nat :=
  ((setOperatorOf head).map setPrecedence).getD 0

/-- What may follow a body without taking over its end. -/
def bodyLooser (bound : Nat) : List (Option Token) :=
  bodyEnds.filter fun head => setBinding head ≤ bound

/-- The word of an operator between queries. -/
def setOperatorWord : SetOperator → Keyword
  | .union => "UNION"
  | .except => "EXCEPT"
  | .intersect => "INTERSECT"

/-- The words behind an operator between queries. -/
def quantifierWords : SetQuantifier → List Keyword
  | .all => ["ALL"]
  | .distinct => ["DISTINCT"]
  | _ => []

section Operators

variable {bound size : Nat} {context : Context} {tokens : List Located} {grammar : Grammar}
  {least steps : Nat} {body : Body} {operator : SetOperator}

theorem mem_bodyLooser {head : Option Token} :
    head ∈ bodyLooser bound ↔ head ∈ bodyEnds ∧ setBinding head ≤ bound := by
  simp [bodyLooser]

theorem bodyLooser_subset {more : Nat} (le : bound ≤ more) :
    bodyLooser bound ⊆ bodyLooser more := by
  intro head member
  obtain ⟨follows, loose⟩ := mem_bodyLooser.1 member
  exact mem_bodyLooser.2 ⟨follows, loose.trans le⟩

theorem bodyLooser_subset_bodyEnds : bodyLooser bound ⊆ bodyEnds :=
  fun _ member => (mem_bodyLooser.1 member).1

theorem setOperatorWord_mem_bodyLooser (loose : setPrecedence operator ≤ bound) :
    some (keywordToken (setOperatorWord operator)) ∈ bodyLooser bound := by
  have follows : some (keywordToken (setOperatorWord operator)) ∈ bodyEnds := by
    cases operator <;> decide
  have same : setBinding (some (keywordToken (setOperatorWord operator)))
      = setPrecedence operator := by
    cases operator <;> decide
  exact mem_bodyLooser.2 ⟨follows, same ▸ loose⟩

theorem setOperator_eq :
    setOperator context tokens = .ok (setOperatorOf (tokenOf tokens.head?), tokens) := by
  rw [setOperator, bind_of_ok peek_eq, bind_keyword?_head?, setOperatorOf]
  generalize (tokenOf tokens.head?).bind Token.keyword? = found
  split
  · rfl
  · rfl
  · rfl
  · simp_all
    rfl

/-- No further query is read where no operator between queries is next, or a looser one. -/
theorem setOperationsUpTo_of_le (loose : setBinding (tokenOf tokens.head?) ≤ least) :
    setOperationsUpTo grammar least steps body context tokens = .ok (body, tokens) := by
  cases steps with
  | zero => rfl
  | succ steps =>
      rw [setOperationsUpTo, bind_of_ok setOperator_eq]
      unfold setBinding at loose
      cases found : setOperatorOf (tokenOf tokens.head?) with
      | none => rfl
      | some operator =>
          rw [found] at loose
          have weak : least ≥ setPrecedence operator := loose
          dsimp only
          rw [if_pos weak]
          rfl

/-- What is read of an operator and the query behind it. -/
def operationRest (grammar : Grammar) (operator : SetOperator) (body : Body) : Parser Body := do
  discard next
  let quantifier ← setQuantifier operator
  let right ← grammar.body (setPrecedence operator)
  return .operation operator quantifier body right

theorem setOperationsUpTo_of_operator (tight : least < setPrecedence operator) {position : Position}
    {rest : List Located} :
    setOperationsUpTo grammar least (steps + 1) body context
        (⟨keywordToken (setOperatorWord operator), position⟩ :: rest)
      = (operationRest grammar operator body >>= setOperationsUpTo grammar least steps) context
        (⟨keywordToken (setOperatorWord operator), position⟩ :: rest) := by
  have found : setOperatorOf (some (keywordToken (setOperatorWord operator))) = some operator := by
    cases operator <;> decide
  have strong : ¬ least ≥ setPrecedence operator := by omega
  rw [setOperationsUpTo, bind_of_ok setOperator_eq]
  simp only [List.head?_cons, tokenOf_some, found]
  rw [if_neg strong]
  simp only [operationRest, bind_assoc, pure_bind]

theorem and_of_false {parser : Parser Bool} (absent : parser context tokens = .ok (false, tokens))
    (asked : Bool) : (pure asked <&&> parser) context tokens = .ok (false, tokens) := by
  cases asked with
  | true => exact absent
  | false => rfl

end Operators

/-! ## Spelling a body -/

/-- The tokens that a plain body may start with. -/
def bodyStarts : List Token :=
  [keywordToken "SELECT", .symbol .openParen]

/--
How a body is written, with or without a blank before it, and that it is read as a whole where
operators between queries must bind more tightly than a precedence.
-/
structure SpellsBody (dialect : Dialect) (depth least : Nat) (body : Body)
    (phrase : Bool → Phrase) : Prop where
  clear : ∀ apart, (phrase apart).Clear dialect
  starts : ∃ token ∈ bodyStarts, (startsSelection body = true → token ≠ .symbol .openParen) ∧
    ∀ apart, ∃ rest, phrase apart = .one apart token ++ rest
  text : ∀ apart, (phrase apart).text = (if apart then [' '] else []) ++ body.sql.toList
  reaches : ∀ size level context apart, context.dialect = dialect → 8 * size + 1 ≤ level →
    depth ≤ context.budget → Reaches size context (bodyRule (grammarOfDepth level) least)
      (setOperationsUpTo (grammarOfDepth level) least) (bodyLooser (bodyEdge body)) (phrase apart)
      body

/-- A phrase whose first token leads to a rule for what is behind it. -/
theorem reaches_body {size level least : Nat} {context : Context} {later : List (Option Token)}
    {apart : Bool} {token : Token} {second : Phrase} {value : Body} (first : Parser Body)
    (leads : ∀ position tokens, bodyRule (grammarOfDepth level) least context
        (⟨token, position⟩ :: tokens)
      = (first >>= fun found => (get : Parser (List Located)) >>= fun tokens =>
          setOperationsUpTo (grammarOfDepth level) least (tokens.length + 1) found) context tokens)
    (understands : ∀ fewer, fewer < size → Understands fewer context later first second value) :
    Reaches size context (bodyRule (grammarOfDepth level) least)
      (setOperationsUpTo (grammarOfDepth level) least) later (.one apart token ++ second)
      value := by
  have whole : Understands size context later (discard next >>= fun _ => first)
      (.one apart token ++ second) value :=
    .leadingOne first (fun _ _ _ _ => rfl) understands
  refine (Reaches.of_first whole rfl).congr fun tokens ahead => ?_
  rw [Phrase.heads_one_append] at ahead
  cases tokens with
  | nil => cases List.mem_singleton.1 ahead
  | cons located rest =>
      obtain ⟨found, position⟩ := located
      cases List.mem_singleton.1 ahead
      exact leads position rest

namespace SpellsBody

variable {dialect : Dialect} {depth least : Nat} {body : Body} {phrase : Bool → Phrase}
  {size level : Nat} {context : Context}

theorem heads (spells : SpellsBody dialect depth least body phrase) (apart : Bool)
    (later : List (Option Token)) : (phrase apart).heads later ⊆ bodyStarts.map some := by
  obtain ⟨token, among, _, starts⟩ := spells.starts
  obtain ⟨rest, same⟩ := starts apart
  rw [same, Phrase.heads_one_append]
  exact List.cons_subset.2 ⟨List.mem_map_of_mem among, List.nil_subset _⟩

theorem legible (spells : SpellsBody dialect depth least body phrase) :
    (phrase true).Legible dialect := by
  obtain ⟨token, _, _, starts⟩ := spells.starts
  obtain ⟨rest, same⟩ := starts true
  exact ⟨spells.clear true, Phrase.breaks_of_apart (by rw [same]; rintro _ ⟨⟩; rfl)⟩

/-- A body is complete where the next operator binds too loosely. -/
theorem whole (spells : SpellsBody dialect depth least body phrase) (apart : Bool)
    (speaks : context.dialect = dialect) (enough : 8 * size + 2 ≤ level)
    (room : depth ≤ context.budget) :
    Understands size context (bodyLooser (min (bodyEdge body) least))
      ((grammarOfDepth level).body least) (phrase apart) body := by
  obtain ⟨less, rfl⟩ : ∃ less, level = less + 1 := ⟨level - 1, by omega⟩
  refine (spells.reaches size less context apart speaks (by omega) room).complete
    (bodyLooser_subset (Nat.min_le_left _ _)) fun steps tokens ahead => ?_
  exact setOperationsUpTo_of_le ((mem_bodyLooser.1 ahead).2.trans (Nat.min_le_right _ _))

end SpellsBody

section Spells

variable {dialect : Dialect} {depth least : Nat}

/-! ## Selections and queries in parentheses -/

theorem spells_select {phrases : Expr → Bool → Phrase} {tables : Relation → Phrase}
    {select : Select} (spells : SpellsSelect dialect depth phrases tables select) :
    SpellsBody dialect (depth + 1) least (.select select) (selectPhrase phrases tables select) where
  clear := clear_select spells
  starts := ⟨keywordToken "SELECT", by decide, fun _ => by decide, fun _ => ⟨_, rfl⟩⟩
  text := text_select spells
  reaches := by
    intro size level context apart speaks enough room
    refine reaches_body (Body.select <$> selectRest (grammarOfDepth level)) (fun _ _ => rfl)
      fun fewer less => ?_
    exact ((understands_select spells speaks (by omega) room).before
      bodyLooser_subset_bodyEnds).map Body.select

theorem spells_body_query {query : Query} {inner : Bool → Phrase}
    (spells : SpellsQuery dialect depth query inner) :
    SpellsBody dialect depth least (.query query) fun apart => parens apart (inner false) where
  clear := fun apart => Phrase.clear_parens apart (spells.clear false)
  starts := ⟨.symbol .openParen, by decide, nofun, fun _ => ⟨_, rfl⟩⟩
  text := by
    intro apart
    have printed : (Body.query query).sql = "(" ++ query.sql ++ ")" := rfl
    rw [text_parens, spells.text, printed]
    simp
  reaches := by
    intro size level context apart speaks enough room
    refine reaches_body ((grammarOfDepth level).query >>= fun query =>
      expectSymbol .closeParen >>= fun _ => pure (.query query)) (fun position tokens => ?_)
      fun fewer less => ?_
    · simp only [bind_assoc, pure_bind]
      rfl
    exact (spells.reads fewer level context false closing speaks (by omega) room (by decide)).step
      (List.Subset.refl _) (Understands.expectSymbol.last rfl)

/-! ## Operations -/

theorem understands_quantifier {size : Nat} {context : Context} {operator : SetOperator}
    {quantifier : SetQuantifier} (known : quantifier ∈ quantifiers) {later : List (Option Token)}
    (starts : later ⊆ bodyStarts.map some) :
    Understands size context later (setQuantifier operator) (.words (quantifierWords quantifier))
      quantifier := by
  have others : ∀ word ∈ ["DISTINCT", "BY", "ALL"], ∀ head ∈ bodyStarts.map some,
      head.any (·.isKeyword word) = false := by decide
  have noName {tokens : List Located} (ahead : Ahead later tokens) :
      (pure (operator == .union) <&&> keywords ["BY", "NAME"]) context tokens
        = .ok (false, tokens) :=
    and_of_false (keywords_of_ne (others "BY" (by decide) _ (starts ahead))) _
  simp only [quantifiers, List.mem_cons, List.not_mem_nil, or_false] at known
  rcases known with rfl | rfl | rfl
  · refine .nothing fun tokens ahead => ?_
    have absent (word : Keyword) (known : word ∈ ["DISTINCT", "BY", "ALL"]) :=
      others word known _ (starts ahead)
    rw [setQuantifier, bind_of_ok (and_of_false (keywords_of_ne (absent "DISTINCT" (by decide))) _),
      if_neg Bool.false_ne_true, bind_of_ok (noName ahead), if_neg Bool.false_ne_true,
      bind_of_ok (keyword_of_ne (absent "ALL" (by decide))), if_neg Bool.false_ne_true,
      bind_of_ok (keyword_of_ne (absent "DISTINCT" (by decide)))]
    rfl
  · refine .one fun position rest ahead _ => ?_
    have other : ∀ word ∈ ["DISTINCT", "BY"], (keywordToken "ALL").isKeyword word = false := by
      decide
    have absent (word : Keyword) (words : List Keyword) (known : word ∈ ["DISTINCT", "BY"]) :
        keywords (word :: words) context (⟨keywordToken "ALL", position⟩ :: rest)
          = .ok (false, ⟨keywordToken "ALL", position⟩ :: rest) :=
      keywords_of_ne (other word known)
    have same : (keywordToken "ALL").isKeyword "ALL" = true := by decide
    rw [setQuantifier, bind_of_ok (and_of_false (absent "DISTINCT" _ (by decide)) _),
      if_neg Bool.false_ne_true, bind_of_ok (and_of_false (absent "BY" _ (by decide)) _),
      if_neg Bool.false_ne_true, bind_of_ok (keyword_of_eq same), if_pos rfl,
      bind_of_ok (noName ahead)]
    rfl
  · refine .one fun position rest ahead _ => ?_
    have notBy : (keywordToken "DISTINCT").isKeyword "BY" = false := by decide
    have notAll : (keywordToken "DISTINCT").isKeyword "ALL" = false := by decide
    have noName : keywords ["BY", "NAME"] context (⟨keywordToken "DISTINCT", position⟩ :: rest)
        = .ok (false, ⟨keywordToken "DISTINCT", position⟩ :: rest) := keywords_of_ne notBy
    have noAll : keyword "ALL" context (⟨keywordToken "DISTINCT", position⟩ :: rest)
        = .ok (false, ⟨keywordToken "DISTINCT", position⟩ :: rest) := keyword_of_ne notAll
    have same : (keywordToken "DISTINCT").isKeyword "DISTINCT" = true := by decide
    rw [setQuantifier, bind_of_ok (and_of_false
        (keywords_of_second_ne (others "BY" (by decide) _ (starts ahead))) _),
      if_neg Bool.false_ne_true, bind_of_ok (and_of_false noName _), if_neg Bool.false_ne_true,
      bind_of_ok noAll, if_neg Bool.false_ne_true, bind_of_ok (keyword_of_eq same)]
    rfl

theorem spells_operation {left right : Body} {before behind : Bool → Phrase}
    (operator : SetOperator) {quantifier : SetQuantifier} (known : quantifier ∈ quantifiers)
    (tight : least < setPrecedence operator) (loose : setPrecedence operator ≤ bodyEdge left)
    (spellsLeft : SpellsBody dialect depth least left before)
    (spellsRight : SpellsBody dialect depth (setPrecedence operator) right behind) :
    SpellsBody dialect depth least (.operation operator quantifier left right) fun apart =>
      before apart ++ (.one true (keywordToken (setOperatorWord operator)) ++
        (.words (quantifierWords quantifier) ++ behind true)) where
  clear := by
    intro apart
    refine (spellsLeft.clear apart).append (.append (Phrase.legible_keyword ?_) (.append
      (Phrase.legible_words ?_) spellsRight.legible))
    · cases operator <;> decide
    · revert quantifier
      decide
  starts := by
    obtain ⟨token, among, told, starts⟩ := spellsLeft.starts
    refine ⟨token, among, told, fun apart => ?_⟩
    obtain ⟨rest, same⟩ := starts apart
    rw [same, Phrase.append_assoc]
    exact ⟨_, rfl⟩
  text := by
    intro apart
    have printed : (Body.operation operator quantifier left right).sql
        = left.sql ++ " " ++ operator.sql ++ quantifier.sql ++ " " ++ right.sql := rfl
    have operated : setOperatorWord operator = operator.sql := by
      cases operator <;> rfl
    have quantified : (Phrase.words (quantifierWords quantifier)).text = quantifier.sql.toList := by
      simp only [quantifiers, List.mem_cons, List.not_mem_nil, or_false] at known
      rcases known with rfl | rfl | rfl <;> rfl
    rw [Phrase.text_append, Phrase.text_append, Phrase.text_append, spellsLeft.text,
      spellsRight.text, quantified, Phrase.text_one, text_keywordToken, operated, printed]
    simp
  reaches := by
    intro size level context apart speaks enough room
    have operated : Understands size context
        (bodyLooser (bodyEdge (.operation operator quantifier left right)))
        (operationRest (grammarOfDepth level) operator left)
        (.one true (keywordToken (setOperatorWord operator)) ++
          (.words (quantifierWords quantifier) ++ behind true))
        (.operation operator quantifier left right) := by
      refine .leadingOne (setQuantifier operator >>= fun quantifier =>
        (grammarOfDepth level).body (setPrecedence operator) >>= fun right =>
          pure (.operation operator quantifier left right)) (fun _ _ _ _ => rfl)
        fun fewer less => ?_
      refine (understands_quantifier known (spellsRight.heads true _)).step
        (List.Subset.refl _) ?_
      refine Understands.last ?_ rfl
      refine (spellsRight.whole true speaks (by omega) room).before (bodyLooser_subset ?_)
      show min (setPrecedence operator) (bodyEdge right) ≤ _
      omega
    refine (spellsLeft.reaches size level context apart speaks enough room).following
      (List.cons_ne_nil _ _) ?_ (fun located spelled tokens steps => ?_) operated
    · show (Phrase.one true _ ++ _).heads _ ⊆ _
      rw [Phrase.heads_one_append]
      exact List.cons_subset.2 ⟨setOperatorWord_mem_bodyLooser loose, List.nil_subset _⟩
    · obtain ⟨position, rfl⟩ := exists_of_map_eq_singleton spelled
      exact setOperationsUpTo_of_operator tight

end Spells

end Querent.Sql.Plain
