import Querent.Proofs.Sql.Plain.Signs

/-!
# Terms in parentheses and case distinctions

Lists of terms are read term by term.  One term or several in parentheses, a test for membership in
a list, and a case distinction are spelled with their parts, each of which is read one level of
nesting deeper.
-/

namespace Querent.Sql.Plain

open Querent.Sql.Parser

/-! ## Canonical texts -/

section Printer

variable (operand : Expr)

theorem sqls_expr (items : List Expr) : Expr.sqls items = items.map Expr.sql := by
  induction items with
  | nil => rfl
  | cons item rest ih => exact congrArg (item.sql :: ·) ih

theorem sql_nested : (Expr.nested operand).sql = "(" ++ operand.sql ++ ")" := rfl

theorem sql_tuple (items : List Expr) :
    (Expr.tuple items).sql = "(" ++ commaJoined (Expr.sqls items) ++ ")" := rfl

theorem sql_inList (negated : Bool) (items : List Expr) :
    (Expr.inList operand negated items).sql
      = operand.sql ++ onlyIf negated " NOT" ++ " IN (" ++ commaJoined (Expr.sqls items) ++ ")" :=
  rfl

theorem sql_case (operand : Option Expr) (conditions results : List Expr)
    (otherwise : Option Expr) :
    (Expr.case operand conditions results otherwise).sql
      = "CASE" ++ Expr.clause " " operand ++
        "".intercalate (List.zipWith caseBranch (Expr.sqls conditions) (Expr.sqls results)) ++
        Expr.clause " ELSE " otherwise ++ " END" := rfl

theorem clause_eq (introduction : String) (given : Option Expr) :
    Expr.clause introduction given = optionClause introduction (given.map Expr.sql) := by
  cases given <;> rfl

end Printer

/-! ## Lists of terms -/

/-- The phrase of some items with commas between them, the first with a blank before it or none. -/
def listed {α : Type} (apart : Bool) (phrases : α → Bool → Phrase) (first : α) (others : List α) :
    Phrase :=
  .separated .comma (phrases first apart :: others.map (phrases · true))

section Items

variable {α : Type} {size : Nat} {context : Context} {first : α} {others : List α}
  {phrases : α → Bool → Phrase} {apart : Bool}

theorem cut_listed_eq_none_iff : (listed apart phrases first others).cut = none
    ↔ (phrases first apart).cut = none ∧ ∀ item ∈ others, (phrases item true).cut = none := by
  rw [listed, Phrase.cut_separated_eq_none_iff, List.forall_mem_cons, List.forall_mem_map]

/-- A list is understood item by item, the first of which need not stand apart. -/
theorem understands_listed {parser : Parser α} {later : List (Option Token)} (apart : Bool)
    (each : ∀ item ∈ first :: others, ∀ apart, Understands size context
      (some (.symbol .comma) :: later) parser (phrases item apart) item)
    (noComma : some (.symbol .comma) ∉ later) :
    Understands size context later (commaSeparated parser) (listed apart phrases first others)
      (first :: others) := by
  have items := @Understands.commaSeparated _ _ _ _ _ _
    ((apart, first) :: others.map fun item => (true, item)) (fun item => phrases item.2 item.1)
    (fun item => item.2)
    (fun item member => by
      rcases List.mem_cons.1 member with rfl | behind
      · exact each first List.mem_cons_self apart
      · obtain ⟨other, found, rfl⟩ := List.mem_map.1 behind
        exact each other (List.mem_cons_of_mem _ found) true)
    noComma (List.cons_ne_nil _ _)
  simp only [List.map_cons, List.map_map, Function.comp_def, List.map_id'] at items
  exact items

end Items

section Listed

variable {dialect : Dialect} {depth size level : Nat} {context : Context} {first : Expr}
  {others : List Expr} {phrases : Expr → Bool → Phrase} {apart : Bool}

/-- Whether each of some expressions is spelled by its phrase. -/
abbrev SpellsAll (dialect : Dialect) (depth : Nat) (items : List Expr)
    (phrases : Expr → Bool → Phrase) : Prop :=
  ∀ item ∈ items, Spells dialect depth 0 item (phrases item)

theorem legible_others (spells : SpellsAll dialect depth others phrases) :
    ∀ phrase ∈ others.map (phrases · true), phrase.Legible dialect := by
  rw [List.forall_mem_map]
  exact fun item member => (spells item member).legible

theorem clear_listed (spells : SpellsAll dialect depth (first :: others) phrases) (apart : Bool) :
    (listed apart phrases first others).Clear dialect := by
  obtain ⟨spellsFirst, spellsOthers⟩ := List.forall_mem_cons.1 spells
  exact Phrase.clear_separated_cons (by decide) (spellsFirst.clear apart)
    (legible_others spellsOthers)

theorem legible_listed (spells : SpellsAll dialect depth (first :: others) phrases) :
    (listed true phrases first others).Legible dialect := by
  refine Phrase.legible_separated (by decide) ?_
  obtain ⟨spellsFirst, spellsOthers⟩ := List.forall_mem_cons.1 spells
  exact List.forall_mem_cons.2 ⟨spellsFirst.legible, legible_others spellsOthers⟩

theorem text_listed (spells : SpellsAll dialect depth (first :: others) phrases) (apart : Bool) :
    (listed apart phrases first others).text
      = (if apart then [' '] else []) ++ (commaJoined (Expr.sqls (first :: others))).toList := by
  obtain ⟨spellsFirst, spellsOthers⟩ := List.forall_mem_cons.1 spells
  rw [sqls_expr]
  exact Phrase.text_separated_cons (spellsFirst.text apart)
    fun item member => (spellsOthers item member).text_true

theorem starts_listed (spells : SpellsAll dialect depth (first :: others) phrases)
    {later : List (Option Token)} :
    ∀ head ∈ (listed apart phrases first others).heads later, StartsTerm head := by
  obtain ⟨behind, same⟩ := @Phrase.heads_separated_cons .comma (phrases first apart)
    (others.map (phrases · true)) later
  intro head member
  rw [listed, same] at member
  exact (spells first List.mem_cons_self).heads apart behind head member

/-- What may follow the last item of a list in parentheses. -/
def closing : List (Option Token) :=
  [some (.symbol .closeParen)]

theorem SpellsAll.each {items : List Expr} (spells : SpellsAll dialect depth items phrases)
    (speaks : context.dialect = dialect) (enough : 8 * size < level)
    (room : depth < context.budget) {later : List (Option Token)} (closes : later ⊆ closers) :
    ∀ item ∈ items, ∀ apart, Understands size context later (grammarOfDepth level).expr
      (phrases item apart) item :=
  fun item member apart => (spells item member).expr apart speaks enough room closes

theorem SpellsAll.listed (spells : SpellsAll dialect depth (first :: others) phrases) (apart : Bool)
    (speaks : context.dialect = dialect) (enough : 8 * size < level)
    (room : depth < context.budget) {later : List (Option Token)}
    (closes : some (.symbol .comma) :: later ⊆ closers) (noComma : some (.symbol .comma) ∉ later) :
    Understands size context later (commaSeparated (grammarOfDepth level).expr)
      (listed apart phrases first others) (first :: others) :=
  understands_listed apart (spells.each speaks enough room closes) noComma

end Listed

/-! ## Parentheses -/

section Parens

variable {dialect : Dialect} {depth least size : Nat} {context : Context} {first : Expr}
  {others : List Expr} {phrases : Expr → Bool → Phrase} {inner : Phrase}

/-- A phrase in parentheses. -/
def parens (apart : Bool) (inner : Phrase) : Phrase :=
  .one apart (.symbol .openParen) ++ (inner ++ .one false (.symbol .closeParen))

@[simp]
theorem cut_parens {apart : Bool} : (parens apart inner).cut = none ↔ inner.cut = none := by
  simp [parens]

theorem text_parens (apart : Bool) :
    (parens apart inner).text = (if apart then [' '] else []) ++ '(' :: (inner.text ++ [')']) := by
  simp [parens, Symbol.text]

theorem heads_parens (apart : Bool) (later : List (Option Token)) :
    (parens apart inner).heads later = [some (.symbol .openParen)] :=
  Phrase.heads_one_append _ _ _ _

theorem fronts_parens (clear : inner.Clear dialect)
    (noPeriod : some (.symbol .period) ∉ inner.heads [some (.symbol .closeParen)]) :
    Fronts dialect none fun apart => parens apart inner := by
  refine .lead (.mark (by decide)) (Phrase.clear_parens · clear) (opens_of_plain (by decide) none)
    (by simp) (fun same => by simp [keywordToken] at same) fun later _ => ?_
  rw [Phrase.heads_append]
  exact noPeriod

theorem queryAhead_of_starts {grammar : Grammar} {tokens : List Located}
    (starts : StartsTerm (tokenOf tokens.head?)) :
    queryAhead grammar context tokens = .ok (none, tokens) := by
  have notSelect : (tokenOf tokens.head?).any (·.isKeyword "SELECT") = false :=
    starts.isKeyword_eq_false (by decide) (by decide)
  have notWith : (tokenOf tokens.head?).any (·.isKeyword "WITH") = false :=
    starts.isKeyword_eq_false (by decide) (by decide)
  have neither : (atKeyword "SELECT" <||> atKeyword "WITH") context tokens
      = .ok (false, tokens) := by
    rw [orM, bind_of_ok (atKeyword_of_ne notSelect)]
    exact atKeyword_of_ne notWith
  rw [queryAhead, bind_of_ok neither]
  rfl

theorem leadingRule_of_paren {level : Nat} {position : Position} {tokens : List Located} :
    leadingRule (grammarOfDepth level) context (⟨.symbol .openParen, position⟩ :: tokens)
      = (parenRest (grammarOfDepth level) >>= collated) context tokens :=
  leadingWith_symbol.trans (bind_congr_of_eq rfl)

/-- One expression in parentheses is itself, and several are a tuple. -/
def grouped : List Expr → Expr
  | [single] => .nested single
  | items => .tuple items

/-- What is read behind the contents of parentheses. -/
def parenEnd (inner : Expr) : Parser Expr := do
  expectSymbol .closeParen
  if ← symbol .period then
    let found ← next
    match tokenOf found with
    | some (.word w) => return .field inner w.ident
    | _ => expectedAt "identifier" found
  else return inner

theorem understands_parenEnd {bound : Nat} {value : Expr} :
    Understands size context (looser bound) (parenEnd value) (.one false (.symbol .closeParen))
      value := by
  refine Understands.expectSymbol.finish fun tokens ahead => ?_
  have noPeriod := (ahead.mono looser_subset_followers).ne
    (show some (.symbol .period) ∉ followers by decide)
  rw [bind_of_ok (symbol_of_ne noPeriod)]
  rfl

theorem parenRest_of_starts {grammar : Grammar} {tokens : List Located}
    (starts : StartsTerm (tokenOf tokens.head?)) :
    parenRest grammar context tokens
      = (commaSeparated grammar.expr >>= fun items => parenEnd (grouped items)) context tokens := by
  unfold parenRest
  rw [bind_of_ok (queryAhead_of_starts starts)]
  have same (items : List Expr) : (match items with
      | [single] => pure (.nested single) >>= parenEnd
      | items => pure (.tuple items) >>= parenEnd : Parser Expr) = parenEnd (grouped items) := by
    unfold grouped
    split <;> rfl
  rw [← funext same]
  rfl

theorem reaches_group {level bound : Nat} (apart : Bool)
    (spells : SpellsAll dialect depth (first :: others) phrases)
    (speaks : context.dialect = dialect) (enough : 8 * size ≤ level)
    (room : depth < context.budget) :
    ReachesTerm size level context least bound (parens apart (listed false phrases first others))
      (grouped (first :: others)) := by
  refine .of_rule (parenRest (grammarOfDepth level)) (fun _ _ _ _ => leadingRule_of_paren)
    fun fewer less => Understands.congr ?_ fun tokens ahead _ => parenRest_of_starts ?_
  · have items := @SpellsAll.listed dialect depth fewer level context first others phrases spells
      false speaks (by omega) room closing (by decide) (by decide)
    exact items.step (List.Subset.refl _) understands_parenEnd
  · rw [Phrase.heads_append] at ahead
    exact starts_listed spells _ ahead

theorem fronts_group (spells : SpellsAll dialect depth (first :: others) phrases) :
    Fronts dialect none fun apart => parens apart (listed false phrases first others) :=
  fronts_parens (clear_listed spells false)
    fun member => (starts_listed spells _ member).ne_symbol (by decide) (by decide) rfl

theorem spells_nested {value : Expr} {phrase : Bool → Phrase}
    (spells : Spells dialect depth 0 value phrase) :
    Spells dialect (depth + 1) least (.nested value) fun apart => parens apart (phrase false) := by
  have each : SpellsAll dialect depth [value] fun _ => phrase := by
    rw [SpellsAll, List.forall_mem_singleton]
    exact spells
  refine ⟨fronts_group each, fun apart => ?_, fun size level context apart speaks enough room =>
    reaches_group apart each speaks enough room⟩
  rw [text_parens, spells.text, sql_nested]
  simp

theorem spells_tuple {second : Expr}
    (spells : SpellsAll dialect depth (first :: second :: others) phrases) :
    Spells dialect (depth + 1) least (.tuple (first :: second :: others)) fun apart =>
      parens apart (listed false phrases first (second :: others)) := by
  refine ⟨fronts_group spells, fun apart => ?_, fun size level context apart speaks enough room =>
    reaches_group apart spells speaks enough room⟩
  rw [text_parens, text_listed spells, sql_tuple]
  simp

end Parens

/-! ## Membership in a list -/

section InList

variable {dialect : Dialect} {depth least : Nat} {operand first : Expr} {others : List Expr}
  {before : Bool → Phrase} {phrases : Expr → Bool → Phrase} {negated : Bool}

/-- A membership test goes on in parentheses, unless it is one in the elements of an array. -/
theorem inRest_of_paren {grammar : Grammar} {context : Context} {tokens : List Located}
    (opens : tokenOf tokens.head? = some (.symbol .openParen)) :
    inRest grammar operand negated context tokens
      = parenthesized (queryAhead grammar >>= fun found =>
          match found with
          | some query => pure (.inQuery operand negated query)
          | none => commaSeparated grammar.expr >>= fun items =>
              pure (.inList operand negated items)) context tokens := by
  have notUnnest : (tokenOf tokens.head?).any (·.isKeyword "UNNEST") = false := by
    rw [opens]
    rfl
  rw [inRest, bind_of_ok (keyword_of_ne notUnnest)]
  rfl

theorem spells_inList (negated : Bool) (tight : least < rangePrecedence)
    (loose : rangePrecedence ≤ edge operand)
    (spells : Spells dialect (depth + 1) least operand before)
    (spellsItems : SpellsAll dialect depth (first :: others) phrases) :
    Spells dialect (depth + 1) least (.inList operand negated (first :: others)) fun apart =>
      before apart ++ (.words (negatable negated ["IN"]) ++
        parens true (listed false phrases first others)) := by
  refine spells.extendWords (fun level => inRest (grammarOfDepth level) operand negated) ?_
    (isWord_negatable (by decide)) rfl ?_
    (Phrase.legible_parens true (clear_listed spellsItems false)) tight
    (negatable_mem_looser (by decide) ?_)
    (fun context located tokens spelled => nextPrecedence_of_range (by decide) spelled)
    (fun level context located spelled tokens ahead =>
      (followingRule_of_negatable (by decide) spelled).trans (comparisonRest_of_in spelled))
    fun size level context speaks enough room => ?_
  · cases negated <;> simp [negatable]
  · rw [Phrase.text_append, text_words_negatable, text_parens, text_listed spellsItems, sql_inList]
    simp
  · cases negated <;> exact loose
  · refine Understands.congr (.parenthesized fun fewer less => ?_) fun tokens ahead _ =>
      inRest_of_paren (List.mem_singleton.1 (heads_parens true _ ▸ ahead))
    refine .skip (fun tokens ahead => queryAhead_of_starts (starts_listed spellsItems _ ahead)) ?_
    exact (spellsItems.listed false speaks (by omega) room (by decide) (by decide)).last rfl

end InList

/-! ## Terms behind words -/

/-- The phrase of a term behind some words, if there is one. -/
def termClause (words : List Keyword) (phrases : Expr → Bool → Phrase) (given : Option Expr) :
    Phrase :=
  .clause words (given.map (phrases · true))

section TermClause

variable {dialect : Dialect} {depth size level : Nat} {context : Context} {given : Option Expr}
  {phrases : Expr → Bool → Phrase} {words : List Keyword}

theorem cut_termClause_eq_none_iff : (termClause words phrases given).cut = none
    ↔ ∀ term ∈ given, (phrases term true).cut = none := by
  simp [termClause, Phrase.cut_clause_eq_none_iff]

theorem legible_termClause (areWords : ∀ word ∈ words, IsWord word.toList)
    (spells : ∀ term ∈ given, Spells dialect depth 0 term (phrases term)) :
    (termClause words phrases given).Legible dialect := by
  refine Phrase.legible_clause areWords fun phrase member => ?_
  obtain ⟨term, found, rfl⟩ := Option.map_eq_some_iff.1 member
  exact (spells term found).legible

theorem text_termClause (introduction : String)
    (introduces : (Phrase.words words).text ++ [' '] = introduction.toList)
    (spells : ∀ term ∈ given, Spells dialect depth 0 term (phrases term)) :
    (termClause words phrases given).text = (Expr.clause introduction given).toList := by
  rw [clause_eq]
  exact Phrase.text_clause introduction introduces fun term found => (spells term found).text_true

theorem heads_termClause (word : Keyword) (later : List (Option Token)) :
    (termClause [word] phrases given).heads later ⊆ some (keywordToken word) :: later := by
  cases given with
  | none => exact List.subset_cons_self _ _
  | some term =>
      rw [termClause, Option.map_some, Phrase.clause, Phrase.heads_words_append]
      exact List.cons_subset.2 ⟨List.mem_cons_self, List.nil_subset _⟩

theorem understands_termClause {word : Keyword} {later : List (Option Token)}
    (known : Keyword.ofSpelling? word.toList = some word)
    (absent : ∀ head ∈ later, head.any (·.isKeyword word) = false)
    (spells : ∀ term ∈ given, Spells dialect depth 0 term (phrases term))
    (speaks : context.dialect = dialect) (enough : 8 * size < level)
    (room : depth < context.budget) (closes : later ⊆ closers) :
    Understands size context later (after word (grammarOfDepth level).expr)
      (termClause [word] phrases given) given := by
  exact .after known absent fun term found =>
    (spells term found).expr true speaks enough room closes

end TermClause

/-! ## Case distinctions -/

/-- The phrase of the branches of a case distinction behind its first `WHEN`. -/
def branches (phrases : Expr → Bool → Phrase) (condition result : Expr) :
    List (Expr × Expr) → Phrase
  | [] => phrases condition true ++ (.words ["THEN"] ++ phrases result true)
  | branch :: rest => phrases condition true ++ (.words ["THEN"] ++ (phrases result true ++
      (.words ["WHEN"] ++ branches phrases branch.1 branch.2 rest)))

section Case

variable {dialect : Dialect} {depth least size level : Nat} {context : Context}
  {condition result : Expr} {others : List (Expr × Expr)} {operand otherwise : Option Expr}
  {phrases : Expr → Bool → Phrase}

/-- Whether both parts of each branch of a case distinction are spelled. -/
def SpellsBranches (dialect : Dialect) (depth : Nat) (phrases : Expr → Bool → Phrase)
    (given : List (Expr × Expr)) : Prop :=
  ∀ branch ∈ given, Spells dialect depth 0 branch.1 (phrases branch.1) ∧
    Spells dialect depth 0 branch.2 (phrases branch.2)

theorem legible_branches (spells : SpellsBranches dialect depth phrases
      ((condition, result) :: others)) :
    (branches phrases condition result others).Legible dialect := by
  induction others generalizing condition result with
  | nil =>
      obtain ⟨spellsCondition, spellsResult⟩ := spells _ List.mem_cons_self
      exact spellsCondition.legible.append ((Phrase.legible_words (by decide)).append
        spellsResult.legible)
  | cons branch rest ih =>
      obtain ⟨⟨spellsCondition, spellsResult⟩, spellsRest⟩ := List.forall_mem_cons.1 spells
      exact spellsCondition.legible.append ((Phrase.legible_words (by decide)).append
        (spellsResult.legible.append ((Phrase.legible_words (by decide)).append
          (ih spellsRest))))

theorem text_branches (spells : SpellsBranches dialect depth phrases
      ((condition, result) :: others)) :
    (Phrase.words ["WHEN"] ++ branches phrases condition result others).text
      = ((condition, result) :: others).flatMap fun branch =>
        (caseBranch branch.1.sql branch.2.sql).toList := by
  induction others generalizing condition result with
  | nil =>
      obtain ⟨spellsCondition, spellsResult⟩ := spells _ List.mem_cons_self
      simp [branches, caseBranch, spellsCondition.text_true, spellsResult.text_true]
  | cons branch rest ih =>
      obtain ⟨⟨spellsCondition, spellsResult⟩, spellsRest⟩ := List.forall_mem_cons.1 spells
      have behind := ih spellsRest
      rw [List.flatMap_cons, ← behind]
      simp [branches, caseBranch, spellsCondition.text_true, spellsResult.text_true]

theorem toList_branches (given : List (Expr × Expr)) :
    ("".intercalate (List.zipWith caseBranch (Expr.sqls (given.map (·.1)))
        (Expr.sqls (given.map (·.2))))).toList
      = given.flatMap fun branch => (caseBranch branch.1.sql branch.2.sql).toList := by
  rw [sqls_expr, sqls_expr, List.map_map, List.map_map, List.zipWith_map, List.zipWith_self]
  exact Phrase.toList_intercalate_empty _ _

theorem cut_branches_eq_none_iff : (branches phrases condition result others).cut = none
    ↔ ∀ branch ∈ (condition, result) :: others,
      (phrases branch.1 true).cut = none ∧ (phrases branch.2 true).cut = none := by
  induction others generalizing condition result with
  | nil => simp [branches]
  | cons branch rest ih =>
      rw [List.forall_mem_cons, ← ih]
      simp [branches, and_assoc]

/-- What may follow the branches of a case distinction. -/
def branchEnds : List (Option Token) :=
  [some (keywordToken "ELSE"), some (keywordToken "END")]

theorem understands_branches {grammar : Grammar}
    (each : ∀ branch ∈ (condition, result) :: others,
      Understands size context closers grammar.expr (phrases branch.1 true) branch.1 ∧
        Understands size context closers grammar.expr (phrases branch.2 true) branch.2)
    {fewer steps : Nat} (few : fewer ≤ size) (enough : fewer < steps) :
    Understands fewer context branchEnds (caseBranchesUpTo grammar steps)
      (branches phrases condition result others) ((condition, result) :: others) := by
  have follows : ∀ word ∈ ["THEN", "WHEN"], [some (keywordToken word)] ⊆ closers := by decide
  induction others generalizing condition result fewer steps with
  | nil =>
      obtain ⟨steps, rfl⟩ : ∃ less, steps = less + 1 := ⟨steps - 1, by omega⟩
      obtain ⟨readCondition, readResult⟩ := List.forall_mem_singleton.1 each
      have noWhen : ∀ head ∈ branchEnds, head.any (·.isKeyword "WHEN") = false := by decide
      rw [caseBranchesUpTo]
      refine (readCondition.mono few (List.Subset.refl _)).step ?_ ?_
      · rw [Phrase.heads_words_append]
        exact follows "THEN" (by decide)
      refine Understands.step (@Understands.expectKeyword _ _ _ "THEN" true (by decide))
        (List.Subset.refl _) ?_
      refine (readResult.mono few (by decide)).finish fun tokens ahead => ?_
      rw [bind_of_ok (keyword_of_ne (noWhen _ ahead))]
      rfl
  | cons second others ih =>
      obtain ⟨steps, rfl⟩ : ∃ less, steps = less + 1 := ⟨steps - 1, by omega⟩
      obtain ⟨⟨readCondition, readResult⟩, each⟩ := List.forall_mem_cons.1 each
      rw [caseBranchesUpTo]
      refine (readCondition.mono few (List.Subset.refl _)).step ?_ ?_
      · rw [Phrase.heads_words_append]
        exact follows "THEN" (by decide)
      refine Understands.step (@Understands.expectKeyword _ _ _ "THEN" true (by decide))
        (List.Subset.refl _) ?_
      refine (readResult.mono few (List.Subset.refl _)).step ?_ ?_
      · rw [Phrase.heads_words_append]
        exact follows "WHEN" (by decide)
      refine Understands.stepWithin (@Understands.keyword _ _ _ "WHEN" true (by decide))
        (List.Subset.refl _) fun less _ fewer => ?_
      have less := fewer (List.cons_ne_nil _ _)
      exact (ih each (by omega) (by omega)).last rfl

/-- What is read behind the first `WHEN` of a case distinction of at most so many branches. -/
def caseEndUpTo (grammar : Grammar) (operand : Option Expr) (steps : Nat) : Parser Expr := do
  let branches ← caseBranchesUpTo grammar steps
  let otherwise ← after "ELSE" grammar.expr
  expectKeyword "END"
  return .case operand (branches.map (·.1)) (branches.map (·.2)) otherwise

/-- What is read behind the first `WHEN` of a case distinction. -/
def caseEnd (grammar : Grammar) (operand : Option Expr) : Parser Expr := do
  caseEndUpTo grammar operand ((← get).length + 1)

/-- The phrase of a case distinction behind its first `WHEN`. -/
def caseEndPhrase (phrases : Expr → Bool → Phrase) (condition result : Expr)
    (others : List (Expr × Expr)) (otherwise : Option Expr) : Phrase :=
  branches phrases condition result others ++
    (termClause ["ELSE"] phrases otherwise ++ .words ["END"])

theorem understands_caseEnd {later : List (Option Token)}
    (spellsBranches : SpellsBranches dialect depth phrases ((condition, result) :: others))
    (spellsOtherwise : ∀ term ∈ otherwise, Spells dialect depth 0 term (phrases term))
    (speaks : context.dialect = dialect) (enough : 8 * size < level)
    (room : depth < context.budget) :
    Understands size context later (caseEnd (grammarOfDepth level) operand)
      (caseEndPhrase phrases condition result others otherwise)
      (.case operand (condition :: others.map (·.1)) (result :: others.map (·.2)) otherwise) := by
  refine @Understands.counted Expr size context later _ _
    (caseEndUpTo (grammarOfDepth level) operand) fun fewer steps few more => ?_
  refine (understands_branches (fun branch member => ?_) few more).step ?_ ?_
  · obtain ⟨condition, result⟩ := spellsBranches branch member
    exact ⟨condition.expr true speaks enough room (List.Subset.refl _),
      result.expr true speaks enough room (List.Subset.refl _)⟩
  · rw [Phrase.heads_append]
    have ends : some (keywordToken "ELSE") :: [some (keywordToken "END")] ⊆ branchEnds := by decide
    exact List.Subset.trans (heads_termClause "ELSE" _) ends
  · have chosen := @understands_termClause dialect depth fewer level context otherwise phrases
      "ELSE" [some (keywordToken "END")] (by decide) (by decide) spellsOtherwise speaks (by omega)
      room (by decide)
    refine chosen.step (List.Subset.refl _) ?_
    exact (@Understands.expectKeyword _ _ _ "END" true (by decide)).last rfl

/-- The phrase of a case distinction. -/
def casePhrase (phrases : Expr → Bool → Phrase) (operand : Option Expr) (condition result : Expr)
    (others : List (Expr × Expr)) (otherwise : Option Expr) (apart : Bool) : Phrase :=
  .one apart (keywordToken "CASE") ++ ((operand.map (phrases · true)).getD (.plain []) ++
    (.words ["WHEN"] ++ caseEndPhrase phrases condition result others otherwise))

theorem legible_caseEnd
    (spellsBranches : SpellsBranches dialect depth phrases ((condition, result) :: others))
    (spellsOtherwise : ∀ term ∈ otherwise, Spells dialect depth 0 term (phrases term)) :
    (Phrase.words ["WHEN"] ++ caseEndPhrase phrases condition result others otherwise).Legible
      dialect := by
  refine (Phrase.legible_words (by decide)).append ((legible_branches spellsBranches).append
    ((legible_termClause (by decide) spellsOtherwise).append (Phrase.legible_words (by decide))))

theorem fronts_case
    (spellsOperand : ∀ term ∈ operand, Spells dialect depth 0 term (phrases term))
    (spellsBranches : SpellsBranches dialect depth phrases ((condition, result) :: others))
    (spellsOtherwise : ∀ term ∈ otherwise, Spells dialect depth 0 term (phrases term)) :
    Fronts dialect none (casePhrase phrases operand condition result others otherwise) := by
  have behind := legible_caseEnd spellsBranches spellsOtherwise
  refine .lead (.word (by decide)) (fun apart => (Phrase.clear_keyword (by decide) apart).append ?_)
    (opens_of_plain (by decide) none) (by simp) (fun same => absurd same (by decide))
    fun later _ => ?_
  · cases operand with
    | none => exact Phrase.Legible.nothing.append behind
    | some term => exact (spellsOperand term rfl).legible.append behind
  · cases operand with
    | none =>
        rw [Option.map_none, Option.getD_none, Phrase.nil_append, Phrase.heads_words_append]
        decide
    | some term =>
        rw [Phrase.heads_append]
        exact (spellsOperand term rfl).shown_ne_period true

theorem text_case
    (spellsOperand : ∀ term ∈ operand, Spells dialect depth 0 term (phrases term))
    (spellsBranches : SpellsBranches dialect depth phrases ((condition, result) :: others))
    (spellsOtherwise : ∀ term ∈ otherwise, Spells dialect depth 0 term (phrases term))
    (apart : Bool) :
    (casePhrase phrases operand condition result others otherwise apart).text
      = (if apart then [' '] else []) ++ (Expr.case operand (condition :: others.map (·.1))
        (result :: others.map (·.2)) otherwise).sql.toList := by
  have leads : ((operand.map (phrases · true)).getD (.plain [])).text
      = (optionClause " " (operand.map Expr.sql)).toList := by
    cases operand with
    | none => rfl
    | some term =>
        rw [Option.map_some, Option.getD_some, (spellsOperand term rfl).text_true]
        simp [optionClause]
  have ends := @text_termClause dialect depth otherwise phrases ["ELSE"] " ELSE " (by decide)
    spellsOtherwise
  have middle := text_branches spellsBranches
  have printed := toList_branches ((condition, result) :: others)
  rw [Phrase.text_append] at middle
  rw [List.map_cons, List.map_cons] at printed
  rw [sql_case, clause_eq " "]
  simp only [String.toList_append, ← leads, ← ends, printed, ← middle]
  simp [casePhrase, caseEndPhrase]

theorem understands_caseRest {later : List (Option Token)}
    (spellsOperand : ∀ term ∈ operand, Spells dialect depth 0 term (phrases term))
    (spellsBranches : SpellsBranches dialect depth phrases ((condition, result) :: others))
    (spellsOtherwise : ∀ term ∈ otherwise, Spells dialect depth 0 term (phrases term))
    (speaks : context.dialect = dialect) (enough : 8 * size < level)
    (room : depth < context.budget) :
    Understands size context later (caseRest (grammarOfDepth level))
      ((operand.map (phrases · true)).getD (.plain []) ++
        (.words ["WHEN"] ++ caseEndPhrase phrases condition result others otherwise))
      (.case operand (condition :: others.map (·.1)) (result :: others.map (·.2)) otherwise) := by
  have behind : Understands size context later (caseEnd (grammarOfDepth level) operand)
      (caseEndPhrase phrases condition result others otherwise) _ :=
    understands_caseEnd spellsBranches spellsOtherwise speaks enough room
  have follows : [some (keywordToken "WHEN")] ⊆ closers := by decide
  cases operand with
  | none =>
      rw [Option.map_none, Option.getD_none, Phrase.nil_append]
      refine Understands.step (@Understands.keyword size context _ "WHEN" true (by decide))
        (List.Subset.refl _) ?_
      exact behind
  | some term =>
      have spells := spellsOperand term rfl
      have notWhen : ∀ head ∈ (phrases term true).heads [some (keywordToken "WHEN")],
          head.any (·.isKeyword "WHEN") = false := fun head member =>
        (spells.heads true _ head member).isKeyword_eq_false (by decide) (by decide)
      rw [Option.map_some, Option.getD_some]
      refine .skip (fun tokens ahead => keyword_of_ne (notWhen _ ?_)) ?_
      · rw [Phrase.heads_append, Phrase.heads_words_append] at ahead
        exact ahead
      rw [if_neg Bool.false_ne_true]
      refine (spells.expr true speaks enough room (List.Subset.refl _)).step ?_ ?_
      · rw [Phrase.heads_words_append]
        exact follows
      · exact Understands.step (@Understands.expectKeyword size context _ "WHEN" true (by decide))
          (List.Subset.refl _) behind

theorem cut_casePhrase {apart : Bool} :
    (casePhrase phrases operand condition result others otherwise apart).cut = none ↔
      (∀ term ∈ operand, (phrases term true).cut = none) ∧
      (∀ branch ∈ (condition, result) :: others,
        (phrases branch.1 true).cut = none ∧ (phrases branch.2 true).cut = none) ∧
      ∀ term ∈ otherwise, (phrases term true).cut = none := by
  have leads : ((operand.map (phrases · true)).getD (.plain [])).cut = none ↔
      ∀ term ∈ operand, (phrases term true).cut = none := by
    cases operand <;> simp
  simp only [casePhrase, caseEndPhrase, Phrase.cut_append_eq_none_iff, Phrase.cut_one,
    Phrase.cut_words, leads, cut_branches_eq_none_iff, cut_termClause_eq_none_iff, true_and,
    and_true]

/-- A case distinction is spelled by its branches, with what they are compared to before them. -/
theorem spells_case
    (spellsOperand : ∀ term ∈ operand, Spells dialect depth 0 term (phrases term))
    (spellsBranches : SpellsBranches dialect depth phrases ((condition, result) :: others))
    (spellsOtherwise : ∀ term ∈ otherwise, Spells dialect depth 0 term (phrases term)) :
    Spells dialect (depth + 1) least
      (.case operand (condition :: others.map (·.1)) (result :: others.map (·.2)) otherwise)
      (casePhrase phrases operand condition result others otherwise) where
  toFronts := fronts_case spellsOperand spellsBranches spellsOtherwise
  text := text_case spellsOperand spellsBranches spellsOtherwise
  reaches := by
    intro size level context apart speaks enough room
    refine .of_rule (caseRest (grammarOfDepth level)) (fun position tokens _ tame => ?_)
      fun fewer less => ?_
    · exact (leadingWith_keyword (by decide) tame).trans (bind_congr_of_eq rfl)
    · exact understands_caseRest spellsOperand spellsBranches spellsOtherwise speaks (by omega) room

end Case

end Querent.Sql.Plain
