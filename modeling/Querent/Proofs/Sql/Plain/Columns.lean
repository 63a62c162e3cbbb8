import Querent.Proofs.Sql.Plain.Subqueries

/-!
# Selected columns

A column is selected by a value, with or without a name for it, or by a wildcard, with or without
the name of a table before it.
-/

namespace Querent.Sql.Plain

open Querent.Sql.Parser

/-- The end of a query, and the words that may stand in its place. -/
def ends (words : List Keyword) : List (Option Token) :=
  queryEnds ++ words.map (some ∘ keywordToken)

/-- The words that may follow a selection. -/
def bodyWords : List Keyword :=
  ["UNION", "EXCEPT", "INTERSECT", "ORDER", "LIMIT", "OFFSET"]

/-- What may follow the columns of a selection. -/
def columnsEnds : List (Option Token) :=
  ends (["FROM", "WHERE", "GROUP", "HAVING"] ++ bodyWords)

/-- What may follow a selected column. -/
def columnEnds : List (Option Token) :=
  some (.symbol .comma) :: columnsEnds

/-- What may follow a wildcard. -/
def wildcardEnds : List (Option Token) :=
  [some (.symbol .comma), some (keywordToken "FROM")]

/-! ## Second names -/

section Labels

variable {dialect : Dialect} {size : Nat} {context : Context} {later : List (Option Token)}
  {name : Ident} {ending : List Keyword} {tokens : List Located}

/-- Whether a token, if any, is none that a second name without the word `AS` may start with. -/
def stopsAlias (ending : List Keyword) : Option Token → Bool
  | some (.word word) => word.keyword.any ending.contains
  | some (.quoted .single _) | some (.quoted .double _) => false
  | _ => true

theorem optionalAlias_of_stops (notAs : (tokenOf tokens.head?).any (·.isKeyword "AS") = false)
    (stops : stopsAlias ending (tokenOf tokens.head?) = true) :
    optionalAlias ending context tokens = .ok (none, tokens) := by
  rw [optionalAlias, bind_of_ok (keyword_of_ne notAs), bind_of_ok peek_eq]
  cases tokens with
  | nil => rfl
  | cons located rest =>
      obtain ⟨token, position⟩ := located
      cases token with
      | word word =>
          have ended : word.keyword.any ending.contains = true := stops
          simp only [List.head?_cons, tokenOf_some, ended]
          rfl
      | quoted form value =>
          cases form with
          | single => cases stops
          | double => cases stops
          | _ => rfl
      | _ => rfl

/-- The phrase of a second name. -/
def labelPhrase (name : Ident) : Phrase :=
  .words ["AS"] ++ .one true (nameToken name)

theorem legible_label (isName : IsName dialect name) : (labelPhrase name).Legible dialect :=
  (Phrase.legible_words (by decide)).append (legible_name isName)

theorem text_label (isName : IsName dialect name) :
    (labelPhrase name).text = (" AS " ++ name.sql).toList := by
  simp [labelPhrase, text_nameToken isName]

theorem understands_label :
    Understands size context later (optionalAlias ending) (labelPhrase name) (some name) := by
  have spells : (keywordToken "AS").isKeyword "AS" = true := by decide
  refine .plain fun located rest spelled _ _ => ?_
  obtain ⟨first, _, rfl, others⟩ := exists_of_map_eq_cons spelled
  obtain ⟨second, rfl⟩ := exists_of_map_eq_singleton others
  rw [optionalAlias, List.cons_append, bind_of_ok (keyword_of_eq spells), bind_of_ok peek_eq,
    List.singleton_append]
  simp only [List.head?_cons, tokenOf_some, nameToken, Bool.true_or, if_true, ident_wordOf]
  rfl

end Labels

/-! ## Columns -/

/-- The phrase of a selected column. -/
def itemPhrase (phrases : Expr → Bool → Phrase) : SelectItem → Phrase
  | .expression value => phrases value true
  | .aliased value label => phrases value true ++ labelPhrase label
  | .wildcard (some (first :: others)) _ _ _ _ =>
    qualified true first others ++ .plain [⟨false, .symbol .period⟩, ⟨false, .symbol .times⟩]
  | .wildcard _ _ _ _ _ => .one true (.symbol .times)

section Items

variable {dialect : Dialect} {depth size level : Nat} {context : Context}
  {later : List (Option Token)} {item : SelectItem} {phrases : Expr → Bool → Phrase}

/-- Whether the value of a column is spelled by its phrase, and is no wildcard itself. -/
def SpellsItem (dialect : Dialect) (depth : Nat) (phrases : Expr → Bool → Phrase)
    (item : SelectItem) : Prop :=
  IsItem dialect item ∧ ∀ value ∈ valueOf item, Spells dialect depth 0 value (phrases value) ∧
    value ≠ .wildcard ∧ ∀ table, value ≠ .qualifiedWildcard table

theorem legible_star {first : Ident} {others : List Ident}
    (names : ∀ name ∈ first :: others, IsName dialect name) :
    (qualified true first others ++
      .plain [⟨false, .symbol .period⟩, ⟨false, .symbol .times⟩]).Legible dialect := by
  have star : (Phrase.one false (.symbol .times)).Clear dialect :=
    Phrase.clear_mark false (by decide)
  have period : (Phrase.one false (.symbol .period) ++ .one false (.symbol .times)).Clear
      dialect := by
    refine .cons (fun following => scans_period dialect ?_) (by decide) (by decide) star
    rintro _ ⟨⟩
    decide
  refine ⟨clear_qualified_append names true fun name apart isName => ?_, ?_⟩
  · exact .cons (fun following => scans_name isName (startsWith_cons.2 (by decide)))
      (oneLine_nameToken isName) (isTame_word _) period
  · exact Phrase.breaks_of_apart (by simp [qualified])

theorem legible_item (spells : SpellsItem dialect depth phrases item) :
    (itemPhrase phrases item).Legible dialect := by
  obtain ⟨isItem, values⟩ := spells
  cases isItem with
  | expression value => exact (values value rfl).1.legible
  | aliased value isName => exact (values value rfl).1.legible.append (legible_label isName)
  | wildcard =>
      exact ⟨Phrase.clear_mark true (by decide), Phrase.breaks_of_apart (by rintro _ ⟨⟩; rfl)⟩
  | qualified names free => exact legible_star names

theorem text_item (spells : SpellsItem dialect depth phrases item) :
    (itemPhrase phrases item).text = ' ' :: item.sql.toList := by
  obtain ⟨isItem, values⟩ := spells
  cases isItem with
  | expression value => exact (values value rfl).1.text_true
  | @aliased value label isName =>
      have printed : (SelectItem.aliased value label).sql = value.sql ++ " AS " ++ label.sql := rfl
      rw [itemPhrase, Phrase.text_append, (values value rfl).1.text_true, text_label isName,
        printed]
      simp
  | wildcard => rfl
  | @qualified first others names free =>
      have printed : (SelectItem.wildcard (some (first :: others)) none [] none []).sql
          = QualifiedName.sql (first :: others) ++ "." ++ "*" ++ "" ++ "" ++ "" ++ "" := rfl
      rw [itemPhrase, Phrase.text_append, text_qualified names, printed]
      simp [Piece.text, Symbol.text]

theorem columnFilter_of_ne {grammar : Grammar} {value : Expr} {tokens : List Located}
    (other : (tokenOf tokens.head?).any (·.isKeyword "FILTER") = false) :
    columnFilter grammar value context tokens = .ok (value, tokens) := by
  have asked : (Dialect.filtersAggregates <$> Parser.dialect) context tokens
      = .ok (context.dialect.filtersAggregates, tokens) := rfl
  have absent : (Dialect.filtersAggregates <$> Parser.dialect <&&> keyword "FILTER") context tokens
      = .ok (false, tokens) := by
    rw [andM, bind_of_ok asked]
    cases context.dialect.filtersAggregates with
    | true => exact keyword_of_ne other
    | false => rfl
  rw [columnFilter, bind_of_ok get_eq, bind_of_ok absent]
  rfl

theorem wildcardRest_of_ne {grammar : Grammar} {table : Option QualifiedName}
    {tokens : List Located}
    (others : ∀ word ∈ ["EXCLUDE", "EXCEPT", "RENAME", "REPLACE"],
      (tokenOf tokens.head?).any (·.isKeyword word) = false) :
    wildcardRest grammar table context tokens
      = .ok (.wildcard table none [] none [], tokens) := by
  have asked (dialects : List Dialect) : dialectIn dialects context tokens
      = .ok (dialects.contains context.dialect, tokens) := rfl
  -- Whether the dialect knows a change of the columns or not, none is read.
  have chosen {α β : Type} {parser : Parser α} {nothing : α} {next : α → Parser β}
      (read : parser context tokens = .ok (nothing, tokens)) (known : Bool) :
      (if known = true then parser >>= next else pure nothing >>= next) context tokens
        = next nothing context tokens := by
    cases known with
    | true => exact bind_of_ok read
    | false => rfl
  have noExclusion : exclusion context tokens = .ok (none, tokens) := by
    rw [exclusion, bind_of_ok (keyword_of_ne (others "EXCLUDE" (by decide)))]
    rfl
  have noException : (dialectIn [.generic] <&&> keyword "EXCEPT") context tokens
      = .ok (false, tokens) :=
    dialectIn_and_keyword_of_ne (others "EXCEPT" (by decide))
  have noRenaming : renamings context tokens = .ok (none, tokens) := by
    rw [renamings, bind_of_ok (keyword_of_ne (others "RENAME" (by decide)))]
    rfl
  have noReplacement : replacements grammar context tokens = .ok ([], tokens) := by
    rw [replacements, bind_of_ok (keyword_of_ne (others "REPLACE" (by decide)))]
    rfl
  rw [wildcardRest, bind_of_ok (asked _)]
  refine (chosen noExclusion _).trans ?_
  refine (bind_of_ok noException).trans ?_
  rw [if_neg Bool.false_ne_true, pure_bind]
  refine (bind_of_ok (asked _)).trans ?_
  refine (chosen noRenaming _).trans ?_
  refine (bind_of_ok (asked _)).trans ?_
  exact chosen noReplacement _

/-- What is read after a selected value. -/
def valueRest (grammar : Grammar) (value : Expr) : Parser SelectItem := do
  let filtered ← columnFilter grammar value
  match ← optionalAlias Keyword.endingColumn with
  | some name => return .aliased filtered name
  | none => return .expression filtered

/-- What is read after a value or a wildcard. -/
def itemRest (grammar : Grammar) : Expr → Parser SelectItem
  | .wildcard => wildcardRest grammar none
  | .qualifiedWildcard table => wildcardRest grammar (some table)
  | value => valueRest grammar value

theorem selectItem_eq (grammar : Grammar) :
    selectItem grammar = exprOrWildcard grammar >>= itemRest grammar := by
  unfold selectItem
  refine congrArg _ (funext fun value => ?_)
  cases value <;> rfl

theorem itemRest_of_value {grammar : Grammar} {value : Expr} (other : value ≠ .wildcard)
    (others : ∀ table, value ≠ .qualifiedWildcard table) :
    itemRest grammar value = valueRest grammar value := by
  unfold itemRest
  split
  · exact absurd rfl other
  · exact absurd rfl (others _)
  · rfl

theorem understands_wildcard {grammar : Grammar} {pieces : List Piece} {value : Expr}
    {table : Option QualifiedName}
    (read : ∀ located rest, located.map (·.token) = pieces.map (·.token) →
      exprOrWildcard grammar context (located ++ rest) = .ok (value, rest))
    (same : itemRest grammar value = wildcardRest grammar table) :
    Understands size context wildcardEnds (selectItem grammar) (.plain pieces)
      (.wildcard table none [] none []) := by
  have words : ∀ word ∈ ["EXCLUDE", "EXCEPT", "RENAME", "REPLACE"], ∀ head ∈ wildcardEnds,
      head.any (·.isKeyword word) = false := by decide
  refine .plain fun located rest spelled ahead _ => ?_
  rw [selectItem_eq, bind_of_ok (read located rest spelled), same]
  exact wildcardRest_of_ne fun word member => words word member _ ahead

theorem wildcardPathUpTo_of_path {located rest : List Located} {names : List Ident}
    {star : Position} {period : Position}
    (spelled : located.map (·.token) = (path names).tokens) {steps : Nat}
    (enough : names.length < steps) (before : List Ident) :
    wildcardPathUpTo steps before context
        (located ++ ⟨.symbol .period, period⟩ :: ⟨.symbol .times, star⟩ :: rest)
      = .ok (some (before ++ names), rest) := by
  induction names generalizing located steps before with
  | nil =>
      cases List.map_eq_nil_iff.1 spelled
      obtain ⟨steps, rfl⟩ : ∃ less, steps = less + 1 := ⟨steps - 1, by omega⟩
      rw [wildcardPathUpTo, List.nil_append, bind_of_ok symbol_of_eq, if_pos rfl,
        bind_of_ok next_eq, List.append_nil]
      rfl
  | cons name others ih =>
      rw [List.length_cons] at enough
      obtain ⟨steps, rfl⟩ : ∃ less, steps = less + 1 := ⟨steps - 1, by omega⟩
      obtain ⟨first, position, behind, rfl, last⟩ := exists_of_map_eq_path spelled
      have later := @ih behind last steps (by omega) (before ++ [name])
      rw [List.append_assoc, List.singleton_append] at later
      rw [wildcardPathUpTo, List.cons_append, bind_of_ok symbol_of_eq, if_pos rfl,
        List.cons_append, bind_of_ok next_eq]
      simpa [nameToken, tokenOf] using later

theorem exprOrWildcard_of_star {grammar : Grammar} {first : Ident} {others : List Ident}
    {located rest : List Located}
    (spelled : located.map (·.token) = (qualified true first others ++
      .plain [⟨false, .symbol .period⟩, ⟨false, .symbol .times⟩]).tokens) :
    exprOrWildcard grammar context (located ++ rest)
      = .ok (.qualifiedWildcard (first :: others), rest) := by
  rw [Phrase.tokens_append, List.map_eq_append_iff] at spelled
  obtain ⟨_, _, rfl, names, ending⟩ := spelled
  obtain ⟨position, behind, rfl, later⟩ := exists_of_map_eq_cons names
  obtain ⟨period, _, rfl, last⟩ := exists_of_map_eq_cons ending
  obtain ⟨star, rfl⟩ := exists_of_map_eq_singleton last
  have read := @wildcardPathUpTo_of_path context behind rest others star period later
    (behind.length + (rest.length + 2) + 1) (by have fewer := length_path later; omega) [first]
  rw [exprOrWildcard, bind_of_ok get_eq, bind_of_ok next_eq]
  simp only [List.cons_append, List.append_assoc, List.head?_cons, List.tail_cons, tokenOf_some,
    nameToken, ident_wordOf, List.length_cons, List.length_append, List.nil_append]
  rw [bind_of_ok read]
  rfl

theorem understands_item (spells : SpellsItem dialect depth phrases item)
    (speaks : context.dialect = dialect) (enough : 8 * size < level)
    (room : depth < context.budget) (allowed : later ⊆ columnEnds)
    (behind : (valueOf item).isSome ∨ later ⊆ wildcardEnds) :
    Understands size context later (selectItem (grammarOfDepth level)) (itemPhrase phrases item)
      item := by
  obtain ⟨isItem, values⟩ := spells
  have read (value : Expr) (found : value ∈ valueOf item) : Understands size context
      (some (keywordToken "AS") :: columnEnds) (exprOrWildcard (grammarOfDepth level))
      (phrases value true) value :=
    ((values value found).1.expr true speaks enough room (by decide)).exprOrWildcard
      (values value found).1.toFronts (by decide)
  have noFilter : ∀ head ∈ some (keywordToken "AS") :: columnEnds,
      head.any (·.isKeyword "FILTER") = false := by decide
  cases isItem with
  | expression value =>
      obtain ⟨_, other, others⟩ := values value rfl
      have stops : ∀ head ∈ columnEnds, head.any (·.isKeyword "AS") = false ∧
          stopsAlias Keyword.endingColumn head = true := by decide
      rw [selectItem_eq]
      refine ((read value rfl).before (List.subset_cons_of_subset _ allowed)).finish
        fun tokens ahead => ?_
      have among := allowed ahead
      rw [itemRest_of_value other others, valueRest,
        bind_of_ok (columnFilter_of_ne (noFilter _ (List.mem_cons_of_mem _ among))),
        bind_of_ok (optionalAlias_of_stops (stops _ among).1 (stops _ among).2)]
      rfl
  | @aliased value label isName =>
      obtain ⟨_, other, others⟩ := values value rfl
      have first : (labelPhrase label).heads later = [some (keywordToken "AS")] :=
        Phrase.heads_words_append _ _ _ _
      rw [selectItem_eq]
      refine (read value rfl).step ?_ ?_
      · rw [first]
        exact List.cons_subset.2 ⟨List.mem_cons_self, List.nil_subset _⟩
      · rw [itemRest_of_value other others]
        refine .skip (fun tokens ahead => columnFilter_of_ne (noFilter _ ?_)) ?_
        · rw [first] at ahead
          exact List.mem_singleton.1 ahead ▸ List.mem_cons_self
        · exact understands_label.last rfl
  | wildcard =>
      have closes : later ⊆ wildcardEnds := behind.resolve_left (by simp [valueOf])
      refine (@understands_wildcard size context (grammarOfDepth level)
        [⟨true, .symbol .times⟩] .wildcard none (fun located rest spelled => ?_) rfl).before closes
      obtain ⟨position, rfl⟩ := exists_of_map_eq_singleton spelled
      rfl
  | @qualified first others names free =>
      have closes : later ⊆ wildcardEnds := behind.resolve_left (by simp [valueOf])
      have read := @understands_wildcard size context (grammarOfDepth level)
        ((qualified true first others : Phrase) ++
          (Phrase.plain [⟨false, .symbol .period⟩, ⟨false, .symbol .times⟩] : Phrase)).pieces
        (.qualifiedWildcard (first :: others)) _
        (fun located rest spelled => exprOrWildcard_of_star spelled) rfl
      exact read.before closes

end Items

end Querent.Sql.Plain
