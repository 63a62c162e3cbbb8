import Querent.Proofs.Sql.Plain.Joins

/-!
# Selections

The clauses of a selection are written and read one after another: its columns, the tables they are
read from, which rows are kept, how they are grouped, and which groups are kept.
-/

namespace Querent.Sql.Plain

open Querent.Sql.Parser

/-- What may follow a selection. -/
def bodyEnds : List (Option Token) :=
  ends bodyWords

/-! ## Spelling a selection -/

/-- The phrase of the clauses behind the columns of a selection. -/
def clausesPhrase (phrases : Expr → Bool → Phrase) (tables : Relation → Phrase)
    (select : Select) : Phrase :=
  .listClause ["FROM"] (select.sources.map (sourcePhrase phrases tables)) ++
    (termClause ["WHERE"] phrases select.condition ++
      (.listClause ["GROUP", "BY"] (select.groupBy.map (phrases · true)) ++
        termClause ["HAVING"] phrases select.having))

/-- The phrase of a selection behind its first word. -/
def selectContent (phrases : Expr → Bool → Phrase) (tables : Relation → Phrase)
    (select : Select) : Phrase :=
  distinctness true (select.distinctness == .distinct) ++
    (.separated .comma (select.items.map (itemPhrase phrases)) ++
      clausesPhrase phrases tables select)

/-- The phrase of a selection. -/
def selectPhrase (phrases : Expr → Bool → Phrase) (tables : Relation → Phrase) (select : Select)
    (apart : Bool) : Phrase :=
  .one apart (keywordToken "SELECT") ++ selectContent phrases tables select

/-- Whether a selection is spelled by the phrases of its parts. -/
structure SpellsSelect (dialect : Dialect) (depth : Nat) (phrases : Expr → Bool → Phrase)
    (tables : Relation → Phrase) (select : Select) : Prop where
  bare : IsBare select
  filled : select.items ≠ []
  wildcards : select.sources = [] → ∀ item ∈ select.items, (valueOf item).isSome
  items : ∀ item ∈ select.items, SpellsItem dialect depth phrases item
  sources : ∀ source ∈ select.sources, SpellsSource dialect depth phrases tables source
  condition : ∀ term ∈ select.condition, Spells dialect depth 0 term (phrases term)
  groups : SpellsAll dialect depth select.groupBy phrases
  having : ∀ term ∈ select.having, Spells dialect depth 0 term (phrases term)

/-- What is left of a selection without the clauses that plain selections do not have. -/
def bared (distinct : Bool) (select : Select) : Select where
  distinctness := if distinct then .distinct else .all
  distinctOn := []
  top := none
  topPercent := false
  topTies := false
  items := select.items
  target := none
  sources := select.sources
  views := []
  condition := select.condition
  groupAll := false
  groupBy := select.groupBy
  clusterBy := []
  distributeBy := []
  sortBy := []
  having := select.having
  windowNames := []
  windows := []
  qualify := none

section Spelling

variable {dialect : Dialect} {depth : Nat} {phrases : Expr → Bool → Phrase}
  {tables : Relation → Phrase} {select : Select}

/-- A plain selection is left as it is. -/
theorem IsBare.bared_eq (bare : IsBare select) :
    bared (select.distinctness == .distinct) select = select := by
  obtain ⟨distinctness, distinctOn, ⟨top, percent, ties⟩, target, views, groupAll,
    ⟨cluster, distribute, sort⟩, ⟨names, windows⟩, qualify⟩ := bare
  cases select
  dsimp only at *
  subst distinctOn top percent ties target views groupAll cluster distribute sort names windows
  subst qualify
  rcases distinctness with rfl | rfl <;> rfl

theorem sqls_item (items : List SelectItem) : SelectItem.sqls items = items.map SelectItem.sql := by
  induction items with
  | nil => rfl
  | cons item rest ih => exact congrArg (item.sql :: ·) ih

theorem sqls_source (sources : List Source) : Source.sqls sources = sources.map Source.sql := by
  induction sources with
  | nil => rfl
  | cons source rest ih => exact congrArg (source.sql :: ·) ih

theorem sql_bared (distinct : Bool) (select : Select) :
    (bared distinct select).sql = "SELECT" ++ onlyIf distinct " DISTINCT" ++ " " ++
      commaJoined (SelectItem.sqls select.items) ++
      listClause " FROM " (Source.sqls select.sources) ++ Expr.clause " WHERE " select.condition ++
      listClause " GROUP BY " (Expr.sqls select.groupBy) ++
      Expr.clause " HAVING " select.having := by
  have printed (distinct : Bool) : (bared distinct select).sql = "SELECT" ++
      onlyIf distinct " DISTINCT" ++ "" ++ " " ++
      commaJoined (SelectItem.sqls select.items) ++ "" ++
      listClause " FROM " (Source.sqls select.sources) ++ "" ++
      Expr.clause " WHERE " select.condition ++
      listClause " GROUP BY " (Expr.sqls select.groupBy) ++ "" ++ "" ++ "" ++
      Expr.clause " HAVING " select.having ++ "" ++ "" := by
    cases distinct <;> rfl
  simpa only [String.append_empty] using printed distinct

theorem cut_items_eq_none_iff (items : List SelectItem) :
    (Phrase.separated .comma (items.map (itemPhrase phrases))).cut = none
      ↔ ∀ item ∈ items, ∀ value ∈ valueOf item, (phrases value true).cut = none := by
  rw [Phrase.cut_separated_eq_none_iff, List.forall_mem_map]
  refine forall₂_congr fun item _ => ?_
  cases item with
  | expression value => simp [itemPhrase, valueOf]
  | aliased value label => simp [itemPhrase, valueOf, labelPhrase]
  | wildcard table exclude except rename replace =>
      obtain _ | _ | ⟨first, others⟩ := table <;> simp [itemPhrase, valueOf, qualified, path]

/-- No two signs meet in a selection where none meet in its terms. -/
theorem cut_selectPhrase_eq_none_iff (spells : SpellsSelect dialect depth phrases tables select)
    (apart : Bool) : (selectPhrase phrases tables select apart).cut = none ↔
      (∀ item ∈ select.items, ∀ value ∈ valueOf item, (phrases value true).cut = none) ∧
      (∀ source ∈ select.sources, ∀ join ∈ source.joins, ∀ condition ∈ join.condition,
        (phrases condition true).cut = none) ∧
      (∀ condition ∈ select.condition, (phrases condition true).cut = none) ∧
      (∀ item ∈ select.groupBy, (phrases item true).cut = none) ∧
      ∀ condition ∈ select.having, (phrases condition true).cut = none := by
  have sources : (Phrase.listClause ["FROM"] (select.sources.map
      (sourcePhrase phrases tables))).cut = none ↔ ∀ source ∈ select.sources,
        ∀ join ∈ source.joins, ∀ condition ∈ join.condition,
          (phrases condition true).cut = none := by
    rw [Phrase.cut_listClause_eq_none_iff, List.forall_mem_map]
    exact forall₂_congr fun source member => cut_sourcePhrase (spells.sources source member)
  simp only [selectPhrase, selectContent, clausesPhrase, distinctness,
    Phrase.cut_append_eq_none_iff, Phrase.cut_one, Phrase.cut_plain, cut_items_eq_none_iff, sources,
    cut_termClause_eq_none_iff, Phrase.cut_listClause_eq_none_iff, List.forall_mem_map, true_and]

theorem legible_clauses (spells : SpellsSelect dialect depth phrases tables select) :
    (clausesPhrase phrases tables select).Legible dialect := by
  refine .append (Phrase.legible_listClause (by decide) ?_) (.append
    (legible_termClause (by decide) spells.condition) (.append
      (Phrase.legible_listClause (by decide) ?_) (legible_termClause (by decide) spells.having)))
  · rw [List.forall_mem_map]
    exact fun source member => legible_source (spells.sources source member)
  · rw [List.forall_mem_map]
    exact fun item member => (spells.groups item member).legible

theorem clear_select (spells : SpellsSelect dialect depth phrases tables select) (apart : Bool) :
    (selectPhrase phrases tables select apart).Clear dialect := by
  refine (Phrase.clear_keyword (by decide) apart).append (.append ?_ (.append
    (Phrase.legible_separated (by decide) ?_) (legible_clauses spells)))
  · cases select.distinctness == .distinct with
    | false => exact .nothing
    | true => exact Phrase.legible_keyword (by decide)
  · rw [List.forall_mem_map]
    exact fun item member => legible_item (spells.items item member)

theorem text_select (spells : SpellsSelect dialect depth phrases tables select) (apart : Bool) :
    (selectPhrase phrases tables select apart).text
      = (if apart then [' '] else []) ++ select.sql.toList := by
  have items := @Phrase.text_separated .comma _ select.items (itemPhrase phrases) SelectItem.sql
    (fun item member => text_item (spells.items item member)) spells.filled
  have sources := @Phrase.text_listClause _ ["FROM"] " FROM " select.sources
    (sourcePhrase phrases tables) Source.sql rfl
    fun source member => text_source (spells.sources source member)
  have groups := @Phrase.text_listClause _ ["GROUP", "BY"] " GROUP BY " select.groupBy
    (phrases · true) Expr.sql rfl fun item member => (spells.groups item member).text_true
  have condition := @text_termClause _ _ _ _ ["WHERE"] " WHERE " rfl spells.condition
  have having := @text_termClause _ _ _ _ ["HAVING"] " HAVING " rfl spells.having
  have distinct : (distinctness true (select.distinctness == .distinct)).text
      = (onlyIf (select.distinctness == .distinct) " DISTINCT").toList := by
    cases select.distinctness == .distinct <;> rfl
  have printed := sql_bared (select.distinctness == .distinct) select
  rw [spells.bare.bared_eq, sqls_item, sqls_source, sqls_expr] at printed
  rw [printed, selectPhrase, selectContent, clausesPhrase]
  simp only [Phrase.text_append, items, sources, groups, condition, having, distinct]
  simp [commaJoined, Symbol.text]

end Spelling

/-! ## Reading a selection -/

section Reading

variable {dialect : Dialect} {depth size level : Nat} {context : Context} {grammar : Grammar}
  {phrases : Expr → Bool → Phrase} {tables : Relation → Phrase} {select : Select}
  {tokens : List Located} {later : List (Option Token)}

/-- A term to group by is no set of terms. -/
theorem understands_group {value : Expr} (spells : Spells dialect depth 0 value (phrases value))
    (speaks : context.dialect = dialect) (enough : 8 * size < level)
    (room : depth < context.budget) (closes : later ⊆ closers) :
    Understands size context later (groupItem (grammarOfDepth level)) (phrases value true)
      value := by
  refine (spells.expr true speaks enough room closes).congr fun tokens ahead _ => ?_
  have starts := spells.heads true later _ ahead
  have notGrouping := @StartsTerm.isKeyword_eq_false _ starts "GROUPING" (by decide) (by decide)
  have notCube := @StartsTerm.isKeyword_eq_false _ starts "CUBE" (by decide) (by decide)
  have notRollup := @StartsTerm.isKeyword_eq_false _ starts "ROLLUP" (by decide) (by decide)
  rw [groupItem, bind_of_ok dialect_eq]
  cases context.dialect.groupsBySets with
  | false => rfl
  | true =>
      rw [if_pos rfl, bind_of_ok (keywords_of_ne notGrouping), if_neg Bool.false_ne_true,
        bind_of_ok (keyword_of_ne notCube), if_neg Bool.false_ne_true,
        bind_of_ok (keyword_of_ne notRollup), if_neg Bool.false_ne_true]

/-- Where no lateral view is next, there is none. -/
theorem lateralViews_of_ne (other : (tokenOf tokens.head?).any (·.isKeyword "LATERAL") = false) :
    many (lateralView grammar) context tokens = .ok ([], tokens) := by
  have absent : lateralView grammar context tokens = .ok (none, tokens) := by
    rw [lateralView, bind_of_ok (keywords_of_ne other)]
    rfl
  rw [many, bind_of_ok get_eq, manyUpTo, bind_of_ok absent]
  rfl

theorem heads_having :
    (termClause ["HAVING"] phrases select.having).heads bodyEnds ⊆ ends ("HAVING" :: bodyWords) :=
  List.Subset.trans (heads_termClause _ _) (by decide)

theorem heads_groups :
    (Phrase.listClause ["GROUP", "BY"] (select.groupBy.map (phrases · true)) ++
      termClause ["HAVING"] phrases select.having).heads bodyEnds
      ⊆ ends (["GROUP", "HAVING"] ++ bodyWords) :=
  Phrase.heads_append_subset heads_having
    (List.Subset.trans (Phrase.heads_listClause _ _ _ _) (by decide))

theorem heads_condition :
    (termClause ["WHERE"] phrases select.condition ++
      (Phrase.listClause ["GROUP", "BY"] (select.groupBy.map (phrases · true)) ++
        termClause ["HAVING"] phrases select.having)).heads bodyEnds
      ⊆ ends (["WHERE", "GROUP", "HAVING"] ++ bodyWords) :=
  Phrase.heads_append_subset heads_groups (List.Subset.trans (heads_termClause _ _) (by decide))

theorem heads_clauses : (clausesPhrase phrases tables select).heads bodyEnds ⊆ columnsEnds :=
  Phrase.heads_append_subset heads_condition
    (List.Subset.trans (Phrase.heads_listClause _ _ _ _) (by decide))

theorem heads_clauses_of_sources (filled : select.sources ≠ []) :
    (clausesPhrase phrases tables select).heads bodyEnds = [some (keywordToken "FROM")] := by
  rw [clausesPhrase, Phrase.heads_append]
  cases same : select.sources with
  | nil => exact absurd same filled
  | cons first others =>
      rw [List.map_cons, Phrase.listClause, Phrase.heads_words_append]

/-- What is read of a selection after its groups. -/
def groupsRest (grammar : Grammar) (finish : List Expr → List Expr → List Expr → Option Expr →
    List (Ident × Window) → Option Expr → Select) : Parser Select := do
  let clusterBy ← listAfter ["CLUSTER", "BY"] (commaSeparated grammar.expr)
  let distributeBy ← listAfter ["DISTRIBUTE", "BY"] (commaSeparated grammar.expr)
  let sortBy ← listAfter ["SORT", "BY"] (commaSeparated grammar.expr)
  let having ← after "HAVING" grammar.expr
  let windows ← listAfter ["WINDOW"] (commaSeparated (namedWindow grammar))
  let qualify ← after "QUALIFY" grammar.expr
  return finish clusterBy distributeBy sortBy having windows qualify

theorem understands_groupsRest
    (spells : ∀ term ∈ select.having, Spells dialect depth 0 term (phrases term))
    (speaks : context.dialect = dialect) (enough : 8 * size < level)
    (room : depth < context.budget)
    (finish : List Expr → List Expr → List Expr → Option Expr → List (Ident × Window) →
      Option Expr → Select) :
    Understands size context bodyEnds (groupsRest (grammarOfDepth level) finish)
      (termClause ["HAVING"] phrases select.having) (finish [] [] [] select.having [] none) := by
  have others : ∀ word ∈ ["CLUSTER", "DISTRIBUTE", "SORT"], ∀ head ∈ ends ("HAVING" :: bodyWords),
      head.any (·.isKeyword word) = false := by decide
  have noWindows : ∀ word ∈ ["WINDOW", "QUALIFY"], ∀ head ∈ bodyEnds,
      head.any (·.isKeyword word) = false := by decide
  have absent (word : Keyword) (words : List Keyword) (known : word ∈ ["CLUSTER", "DISTRIBUTE",
      "SORT"]) (tokens : List Located)
      (ahead : Ahead ((termClause ["HAVING"] phrases select.having).heads bodyEnds) tokens) :
      listAfter (word :: words) (commaSeparated (grammarOfDepth level).expr) context tokens
        = .ok ([], tokens) :=
    listAfter_of_ne (others word known _ (heads_having ahead))
  have having := @understands_termClause dialect depth size level context select.having phrases
    "HAVING" bodyEnds (by decide) (by decide) spells speaks enough room (by decide)
  refine .skip (absent "CLUSTER" ["BY"] (by decide)) ?_
  refine .skip (absent "DISTRIBUTE" ["BY"] (by decide)) ?_
  refine .skip (absent "SORT" ["BY"] (by decide)) ?_
  refine having.finish fun tokens ahead => ?_
  rw [bind_of_ok (listAfter_of_ne (noWindows "WINDOW" (by decide) _ ahead)),
    bind_of_ok (after_of_ne (noWindows "QUALIFY" (by decide) _ ahead))]
  rfl

/-- The groups of a selection and what follows them. -/
theorem understands_groups {finish : Bool → List Expr → Parser Select} {result : Select}
    (spells : SpellsAll dialect depth select.groupBy phrases)
    (speaks : context.dialect = dialect) (enough : 8 * size < level)
    (room : depth < context.budget)
    (continues : Understands size context bodyEnds (finish false select.groupBy)
      (termClause ["HAVING"] phrases select.having) result) :
    Understands size context bodyEnds (do
        let grouped ← keywords ["GROUP", "BY"]
        let groupAll ← if grouped then keyword "ALL" else pure false
        let groupBy ← if grouped && !groupAll then
          commaSeparated (groupItem (grammarOfDepth level)) else pure []
        finish groupAll groupBy)
      (.listClause ["GROUP", "BY"] (select.groupBy.map (phrases · true)) ++
        termClause ["HAVING"] phrases select.having) result := by
  cases same : select.groupBy with
  | nil =>
      rw [same] at continues
      have absent : ∀ head ∈ ends ("HAVING" :: bodyWords),
          head.any (·.isKeyword "GROUP") = false := by decide
      have ungrouped : Understands size context (ends ("HAVING" :: bodyWords))
          (keywords ["GROUP", "BY"]) (.plain []) false :=
        .nothing fun tokens ahead => keywords_of_ne (absent _ ahead)
      exact ungrouped.step heads_having continues
  | cons first rest =>
      rw [same] at continues spells
      have items : Understands size context (ends ("HAVING" :: bodyWords))
          (commaSeparated (groupItem (grammarOfDepth level))) (listed true phrases first rest)
          (first :: rest) :=
        .list (fun item member => understands_group (spells item member) speaks enough room
          (by decide)) (by decide) (List.cons_ne_nil first rest)
      have notAll : ∀ head ∈ (listed true phrases first rest ++
          termClause ["HAVING"] phrases select.having).heads bodyEnds,
          head.any (·.isKeyword "ALL") = false := by
        intro head member
        rw [Phrase.heads_append] at member
        exact (starts_listed spells head member).isKeyword_eq_false (by decide) (by decide)
      rw [List.map_cons, Phrase.listClause, Phrase.append_assoc]
      refine (Understands.words (by decide)).step (List.Subset.refl _) ?_
      refine .skip (fun tokens ahead => keyword_of_ne (notAll _ ahead)) ?_
      exact items.step heads_having continues

/-- The columns of a selection start with no word that changes what is selected. -/
theorem isKeyword_items (spells : SpellsSelect dialect depth phrases tables select) {word : Keyword}
    (special : word ∈ reserved) (other : word ∉ termWords) :
    ∀ head ∈ (Phrase.separated .comma (select.items.map (itemPhrase phrases))).heads later,
      head.any (·.isKeyword word) = false := by
  have each (item : SelectItem) (member : item ∈ select.items) {behind : List (Option Token)} :
      ∀ head ∈ (itemPhrase phrases item).heads behind, head.any (·.isKeyword word) = false := by
    obtain ⟨isItem, values⟩ := spells.items item member
    intro head among
    cases isItem with
    | expression value =>
        exact ((values value rfl).1.heads true _ head among).isKeyword_eq_false special other
    | aliased value isName =>
        rw [itemPhrase, Phrase.heads_append] at among
        exact ((values value rfl).1.heads true _ head among).isKeyword_eq_false special other
    | wildcard =>
        rw [List.mem_singleton.1 among]
        rfl
    | qualified names free =>
        rw [itemPhrase, qualified, Phrase.append_assoc, Phrase.heads_one_append] at among
        rw [List.mem_singleton.1 among]
        exact isKeyword_nameToken free special
  cases same : select.items with
  | nil => exact absurd same spells.filled
  | cons first others =>
      obtain ⟨behind, heads⟩ := @Phrase.heads_separated_cons .comma (itemPhrase phrases first)
        (others.map (itemPhrase phrases)) later
      rw [List.map_cons, heads]
      exact each first (same ▸ List.mem_cons_self)

theorem understands_items (spells : SpellsSelect dialect depth phrases tables select)
    (speaks : context.dialect = dialect) (enough : 8 * size < level)
    (room : depth < context.budget) :
    Understands size context ((clausesPhrase phrases tables select).heads bodyEnds)
      (commaSeparated (selectItem (grammarOfDepth level)))
      (.separated .comma (select.items.map (itemPhrase phrases))) select.items := by
  have noComma : some (Token.symbol .comma) ∉ columnsEnds := by decide
  refine .list (fun item member => ?_) (fun member => noComma (heads_clauses member)) spells.filled
  refine understands_item (spells.items item member) speaks enough room
    (List.cons_subset_cons _ heads_clauses) ?_
  by_cases filled : select.sources = []
  · exact .inl (spells.wildcards filled item member)
  · refine .inr ?_
    rw [heads_clauses_of_sources filled]
    exact List.Subset.refl _

/-- The clauses of a selection are understood one after another. -/
theorem understands_select (spells : SpellsSelect dialect depth phrases tables select)
    (speaks : context.dialect = dialect) (enough : 8 * size + 3 ≤ level)
    (room : depth < context.budget) :
    Understands size context bodyEnds (selectRest (grammarOfDepth level))
      (selectContent phrases tables select) select := by
  have few : 8 * size < level := by omega
  have notItem (word : Keyword) (special : word ∈ reserved) (other : word ∉ termWords) :
      ∀ head ∈ (Phrase.separated .comma (select.items.map (itemPhrase phrases)) ++
        clausesPhrase phrases tables select).heads bodyEnds,
        head.any (·.isKeyword word) = false := by
    rw [Phrase.heads_append]
    exact isKeyword_items spells special other
  have noTarget : ∀ head ∈ columnsEnds, head.any (·.isKeyword "INTO") = false := by decide
  have noViews : ∀ head ∈ ends (["WHERE", "GROUP", "HAVING"] ++ bodyWords),
      head.any (·.isKeyword "LATERAL") = false := by decide
  have sources : Understands size context (ends (["WHERE", "GROUP", "HAVING"] ++ bodyWords))
      (listAfter ["FROM"] (commaSeparated (grammarOfDepth level).source))
      (.listClause ["FROM"] (select.sources.map (sourcePhrase phrases tables)))
      select.sources :=
    .listAfter (by decide) (by decide) (by decide) fun source member =>
      understands_source (spells.sources source member) speaks enough room
  have condition := @understands_termClause dialect depth size level context select.condition
    phrases "WHERE" (ends (["GROUP", "HAVING"] ++ bodyWords)) (by decide) (by decide)
    spells.condition speaks few room (by decide)
  have distinct : Understands size context
      ((Phrase.separated .comma (select.items.map (itemPhrase phrases)) ++
        clausesPhrase phrases tables select).heads bodyEnds) (allOrDistinct (grammarOfDepth level))
      (distinctness true (select.distinctness == .distinct))
      (if select.distinctness == .distinct then .distinct else .all, []) := by
    refine understands_distinctness fun word member => ?_
    have special : word ∈ reserved ∧ word ∉ termWords := by
      revert word
      decide
    exact notItem word special.1 special.2
  suffices whole : Understands size context bodyEnds (selectRest (grammarOfDepth level))
      (selectContent phrases tables select) (bared (select.distinctness == .distinct) select) by
    rwa [spells.bare.bared_eq] at whole
  rw [selectRest, selectContent]
  refine distinct.step (List.Subset.refl _) ?_
  refine .skip (fun tokens ahead => after_of_ne (notItem "TOP" (by decide) (by decide) _ ahead)) ?_
  refine (understands_items spells speaks few room).step (List.Subset.refl _) ?_
  refine .skip (fun tokens ahead => after_of_ne (noTarget _ (heads_clauses ahead))) ?_
  refine sources.step heads_condition ?_
  refine .skip (fun tokens ahead => lateralViews_of_ne (noViews _ (heads_condition ahead))) ?_
  refine condition.step heads_groups ?_
  exact understands_groups spells.groups speaks few room
    (understands_groupsRest spells.having speaks few room _)

end Reading

end Querent.Sql.Plain
