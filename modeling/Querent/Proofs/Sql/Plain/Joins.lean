import Querent.Proofs.Sql.Plain.Tables

/-!
# Joins

What is joined to a table is written behind it, with what pairs their rows.  Several tables joined
like this make up one source of rows.
-/

namespace Querent.Sql.Plain

open Querent.Sql.Parser

/-! ## The words of a join -/

/-- The words of a join, without the one for equal names. -/
def joinKeywords : JoinKind → List Keyword
  | .inner => ["JOIN"]
  | .left => ["LEFT", "JOIN"]
  | .right => ["RIGHT", "JOIN"]
  | .full => ["FULL", "JOIN"]
  | .leftSemi => ["LEFT", "SEMI", "JOIN"]
  | .rightSemi => ["RIGHT", "SEMI", "JOIN"]
  | .leftAnti => ["LEFT", "ANTI", "JOIN"]
  | .rightAnti => ["RIGHT", "ANTI", "JOIN"]
  | .cross => ["CROSS", "JOIN"]
  | .crossApply => ["CROSS", "APPLY"]
  | .outerApply => ["OUTER", "APPLY"]

section Words

variable {size : Nat} {context : Context} {later : List (Option Token)} {tokens : List Located}
  {grammar : Grammar} {kind : JoinKind}

theorem isWord_joinKeywords (kind : JoinKind) :
    ∀ word ∈ joinKeywords kind, IsWord word.toList := by
  cases kind <;> decide

theorem text_joinKeywords (kind : JoinKind) :
    (Phrase.words (joinKeywords kind)).text = (" " ++ kind.sql).toList := by
  cases kind <;> rfl

theorem heads_joinKeywords (kind : JoinKind) :
    (Phrase.words (joinKeywords kind)).heads later ⊆ joinedEnds := by
  cases kind <;> exact List.cons_subset.2 ⟨by decide, List.nil_subset _⟩

theorem understands_joinKeywords (natural : Bool) (known : kind ∉ unconstrained) :
    Understands size context later (constrainedJoin natural) (.words (joinKeywords kind))
      (some kind) := by
  refine .plain fun located rest spelled _ _ => ?_
  cases kind with
  | inner =>
      obtain ⟨position, rfl⟩ := exists_of_map_eq_singleton spelled
      rfl
  | left | right | full =>
      obtain ⟨first, _, rfl, others⟩ := exists_of_map_eq_cons spelled
      obtain ⟨second, rfl⟩ := exists_of_map_eq_singleton others
      rfl
  | leftSemi | rightSemi | leftAnti | rightAnti =>
      obtain ⟨first, _, rfl, others⟩ := exists_of_map_eq_cons spelled
      obtain ⟨second, _, rfl, last⟩ := exists_of_map_eq_cons others
      obtain ⟨third, rfl⟩ := exists_of_map_eq_singleton last
      rfl
  | cross | crossApply | outerApply => exact absurd (by decide) known

theorem constrainedJoin_of_ahead (ahead : Ahead tablesEnds tokens) :
    constrainedJoin false context tokens = .ok (none, tokens) := by
  have others : ∀ head ∈ tablesEnds, ∀ word ∈ ["INNER", "JOIN", "LEFT", "RIGHT", "FULL", "OUTER"],
      head.bind Token.keyword? ≠ some word := by decide
  have absent := others _ ahead
  rw [← bind_keyword?_head?] at absent
  rw [constrainedJoin, bind_of_ok peek_eq]
  generalize (tokens.head?).bind (·.token.keyword?) = found at absent
  split
  iterate 6 exact absurd rfl (absent _ (by decide))
  rfl

end Words

/-! ## Constraints -/

/-- The phrase of the columns that rows are paired by. -/
def usingPhrase : List Ident → Phrase
  | [] => .plain []
  | first :: others => .words ["USING"] ++ columnsPhrase false first others

/-- The phrase of what rows are paired by. -/
def constraintPhrase (phrases : Expr → Bool → Phrase) (join : Join) : Phrase :=
  termClause ["ON"] phrases join.condition ++ usingPhrase join.columns

/-- The phrase of a join. -/
def joinPhrase (phrases : Expr → Bool → Phrase) (tables : Relation → Phrase) (join : Join) :
    Phrase :=
  .words (if join.natural then ["NATURAL"] else []) ++ (.words (joinKeywords join.kind) ++
    (tables join.relation ++ constraintPhrase phrases join))

/-- Whether a join is spelled by the phrases of its parts. -/
structure SpellsJoin (dialect : Dialect) (depth : Nat) (phrases : Expr → Bool → Phrase)
    (tables : Relation → Phrase) (join : Join) : Prop where
  isJoin : IsJoin dialect join
  relation : SpellsRelation dialect (depth + 1) join.relation (tables join.relation)
  condition : ∀ condition ∈ join.condition, Spells dialect depth 0 condition (phrases condition)

section Joins

variable {dialect : Dialect} {depth size level : Nat} {context : Context}
  {phrases : Expr → Bool → Phrase} {tables : Relation → Phrase} {join : Join}

theorem sql_join (join : Join) :
    join.sql = " " ++ onlyIf join.natural "NATURAL " ++ join.kind.sql ++ " " ++
      join.relation.sql ++ Expr.clause " ON " join.condition ++
      onlyIf (!join.columns.isEmpty) (" USING(" ++ identList join.columns ++ ")") := by
  cases join
  rfl

/-- The columns that rows are paired by have names. -/
theorem IsJoin.names (isJoin : IsJoin dialect join) :
    ∀ name ∈ join.columns, IsName dialect name := by
  cases isJoin with
  | columns _ _ names => exact names
  | _ => simp

theorem cut_using (columns : List Ident) : (usingPhrase columns).cut = none := by
  cases columns with
  | nil => rfl
  | cons first others => exact Phrase.cut_append_eq_none_iff.2 ⟨rfl, cut_columns false⟩

theorem legible_using {columns : List Ident} (names : ∀ name ∈ columns, IsName dialect name) :
    (usingPhrase columns).Legible dialect := by
  cases columns with
  | nil => exact .nothing
  | cons first others =>
      exact (Phrase.legible_words (by decide)).append (legible_columns names false)

theorem text_using {columns : List Ident} (names : ∀ name ∈ columns, IsName dialect name) :
    (usingPhrase columns).text
      = (onlyIf (!columns.isEmpty) (" USING(" ++ identList columns ++ ")")).toList := by
  cases columns with
  | nil => rfl
  | cons first others =>
      rw [usingPhrase, Phrase.text_append, text_columns names false]
      simp [onlyIf]

theorem cut_joinPhrase (uncut : (tables join.relation).cut = none) :
    (joinPhrase phrases tables join).cut = none
      ↔ ∀ condition ∈ join.condition, (phrases condition true).cut = none := by
  simp [joinPhrase, constraintPhrase, uncut, cut_using, cut_termClause_eq_none_iff]

theorem legible_join (spells : SpellsJoin dialect depth phrases tables join) :
    (joinPhrase phrases tables join).Legible dialect := by
  refine .append (Phrase.legible_words ?_) (.append
    (Phrase.legible_words (isWord_joinKeywords join.kind)) (.append spells.relation.legible
      (.append (legible_termClause (by decide) spells.condition)
        (legible_using spells.isJoin.names))))
  cases join.natural <;> decide

theorem text_join (spells : SpellsJoin dialect depth phrases tables join) :
    (joinPhrase phrases tables join).text = join.sql.toList := by
  rw [joinPhrase, constraintPhrase, Phrase.text_append, Phrase.text_append, Phrase.text_append,
    Phrase.text_append, text_joinKeywords, spells.relation.text,
    text_termClause " ON " rfl spells.condition, text_using spells.isJoin.names, sql_join]
  cases join.natural <;> simp [onlyIf]

/-! ## Reading joins -/

theorem heads_natural (natural : Bool) (kind : JoinKind) (second : Phrase)
    (later : List (Option Token)) :
    (Phrase.words (if natural then ["NATURAL"] else []) ++ (.words (joinKeywords kind) ++
      second)).heads later
        = if natural then [some (keywordToken "NATURAL")]
          else (Phrase.words (joinKeywords kind)).heads [] := by
  rw [Phrase.heads_append, Phrase.heads_append]
  cases natural with
  | true => rfl
  | false => cases kind <;> rfl

/-- What is read of a join behind its first words. -/
def joinRest (grammar : Grammar) (natural : Bool) : Option JoinKind → Parser (Option Join)
  | some kind => do
    let relation ← grammar.relation
    let pairs ← constraint grammar natural
    return some ⟨kind, relation, natural, pairs.condition, pairs.columns⟩
  | none => return none

theorem join_eq {grammar : Grammar} {tokens : List Located}
    (others : ∀ word ∈ ["CROSS", "OUTER"],
      (tokenOf tokens.head?).any (·.isKeyword word) = false) :
    Parser.join grammar context tokens
      = (keyword "NATURAL" >>= fun natural => constrainedJoin natural >>= joinRest grammar natural)
        context tokens := by
  rw [Parser.join, bind_of_ok (keyword_of_ne (others "CROSS" (by decide))),
    if_neg Bool.false_ne_true, bind_of_ok (keyword_of_ne (others "OUTER" (by decide))),
    if_neg Bool.false_ne_true]
  refine congrArg (fun next => (keyword "NATURAL" >>= next) context tokens)
    (funext fun natural => ?_)
  refine congrArg (constrainedJoin natural >>= ·) (funext fun found => ?_)
  cases found with
  | none => rfl
  | some kind => rfl

theorem join_of_ahead {grammar : Grammar} {tokens : List Located}
    (ahead : Ahead tablesEnds tokens) :
    Parser.join grammar context tokens = .ok (none, tokens) := by
  have others : ∀ word ∈ ["CROSS", "OUTER", "NATURAL"], ∀ head ∈ tablesEnds,
      head.any (·.isKeyword word) = false := by decide
  rw [join_eq fun word member => others word (List.mem_append_left ["NATURAL"] member) _ ahead,
    bind_of_ok (keyword_of_ne (others "NATURAL" (by decide) _ ahead)),
    bind_of_ok (constrainedJoin_of_ahead ahead)]
  rfl

variable {kind : JoinKind} {relation : Relation} {table : Phrase}

theorem understands_bareJoin (known : kind ∈ unconstrained)
    (spells : SpellsRelation dialect depth relation table) (speaks : context.dialect = dialect)
    (enough : 8 * size + 2 ≤ level) (room : depth ≤ context.budget) :
    Understands size context joinedEnds (Parser.join (grammarOfDepth level))
      (.words (joinKeywords kind) ++ table) (some ⟨kind, relation, false, none, []⟩) := by
  refine .leading ((grammarOfDepth level).relation >>= fun relation =>
    pure (some ⟨kind, relation, false, none, []⟩)) (by cases kind <;> exact List.cons_ne_nil _ _)
    (fun located spelled tokens _ _ => ?_) fun fewer less =>
    (((spells.reads fewer level context speaks (by omega) room).before
      (List.subset_append_right _ _)).last rfl)
  cases kind with
  | cross | crossApply | outerApply =>
      obtain ⟨first, _, rfl, others⟩ := exists_of_map_eq_cons spelled
      obtain ⟨second, rfl⟩ := exists_of_map_eq_singleton others
      rfl
  | _ => exact absurd known (by decide)

theorem understands_constrainedJoin {condition : Option Expr} {columns : List Ident}
    {natural : Bool} {second : Phrase} (known : kind ∉ unconstrained)
    (spells : SpellsRelation dialect depth relation table) (speaks : context.dialect = dialect)
    (enough : 8 * size + 2 ≤ level) (room : depth ≤ context.budget)
    (follows : second.heads joinedEnds ⊆ tableEnds)
    (pairs : Understands size context joinedEnds (constraint (grammarOfDepth level) natural) second
      ⟨condition, columns⟩) :
    Understands size context joinedEnds (Parser.join (grammarOfDepth level))
      (.words (if natural then ["NATURAL"] else []) ++ (.words (joinKeywords kind) ++
        (table ++ second))) (some ⟨kind, relation, natural, condition, columns⟩) := by
  have rest : Understands size context joinedEnds
      (constrainedJoin natural >>= joinRest (grammarOfDepth level) natural)
      (.words (joinKeywords kind) ++ (table ++ second))
      (some ⟨kind, relation, natural, condition, columns⟩) := by
    refine (understands_joinKeywords natural known).step (List.Subset.refl _) ?_
    exact (spells.reads size level context speaks enough room).step follows (pairs.last rfl)
  have heads : ∀ word ∈ ["CROSS", "OUTER", "NATURAL"],
      ∀ head ∈ (Phrase.words (joinKeywords kind)).heads [],
        head.any (·.isKeyword word) = false := by
    cases kind with
    | cross | crossApply | outerApply => exact absurd (by decide) known
    | _ => decide
  have first : (Phrase.words (joinKeywords kind) ++ (table ++ second)).heads joinedEnds
      = (Phrase.words (joinKeywords kind)).heads [] := by
    rw [Phrase.heads_append]
    cases kind <;> rfl
  refine Understands.congr ((Understands.given (by decide) fun head member => ?_).step
    (List.Subset.refl _) rest) fun tokens ahead _ => join_eq fun word member => ?_
  · exact heads "NATURAL" (by decide) head (first ▸ member)
  · rw [heads_natural] at ahead
    cases natural with
    | true =>
        rw [List.mem_singleton.1 ahead]
        revert word
        decide
    | false => exact heads word (List.mem_append_left ["NATURAL"] member) _ ahead

theorem understands_constraint_of_ahead {grammar : Grammar} (natural : Bool) :
    Understands size context joinedEnds (constraint grammar natural) (.plain []) ⟨none, []⟩ := by
  have others : ∀ head ∈ joinedEnds, head.any (·.isKeyword "ON") = false ∧
      head.any (·.isKeyword "USING") = false := by decide
  refine .nothing fun tokens ahead => ?_
  cases natural with
  | true => rfl
  | false =>
      rw [constraint, if_neg Bool.false_ne_true, bind_of_ok (keyword_of_ne (others _ ahead).1),
        if_neg Bool.false_ne_true, bind_of_ok (keyword_of_ne (others _ ahead).2)]
      rfl

theorem understands_join (spells : SpellsJoin dialect depth phrases tables join)
    (speaks : context.dialect = dialect) (enough : 8 * size + 2 ≤ level)
    (room : depth < context.budget) :
    Understands size context joinedEnds (Parser.join (grammarOfDepth level))
      (joinPhrase phrases tables join) (some join) := by
  obtain ⟨isJoin, spellsRelation, spellsCondition⟩ := spells
  unfold joinPhrase constraintPhrase
  cases isJoin with
  | bare known relation =>
      show Understands size context joinedEnds _
        (.plain [] ++ (.words (joinKeywords _) ++ (tables relation ++ (.plain [] ++ .plain [])))) _
      rw [Phrase.nil_append, Phrase.nil_append, Phrase.append_nil]
      exact understands_bareJoin known spellsRelation speaks enough room
  | unstated known natural relation =>
      have nothing := @understands_constraint_of_ahead size context (grammarOfDepth level) natural
      have follows : joinedEnds ⊆ tableEnds := List.subset_append_right _ _
      exact understands_constrainedJoin known spellsRelation speaks enough room follows nothing
  | condition known relation condition =>
      have value := (spellsCondition condition rfl).expr true speaks
        (show 8 * size < level by omega) room (show joinedEnds ⊆ closers by decide)
      refine understands_constrainedJoin known spellsRelation speaks enough room ?_ ?_
      · rw [termClause, Option.map_some, Phrase.clause, Phrase.append_assoc,
          Phrase.heads_words_append]
        decide
      · show Understands size context joinedEnds (constraint (grammarOfDepth level) false)
          (.words ["ON"] ++ phrases condition true ++ .plain []) _
        rw [Phrase.append_nil]
        exact Understands.step (@Understands.keyword size context _ "ON" true (by decide))
          (List.Subset.refl _) (value.last rfl)
  | @columns kind known relation first others names =>
      refine understands_constrainedJoin known spellsRelation speaks enough room ?_ ?_
      · show (Phrase.plain [] ++ (.words ["USING"] ++ columnsPhrase false first others)).heads
          joinedEnds ⊆ tableEnds
        rw [Phrase.nil_append, Phrase.heads_words_append]
        decide
      · show Understands size context joinedEnds (constraint (grammarOfDepth level) false)
          (.plain [] ++ (.words ["USING"] ++ columnsPhrase false first others)) _
        have notOn : ∀ head ∈ [some (keywordToken "USING")],
            head.any (·.isKeyword "ON") = false := by decide
        rw [Phrase.nil_append]
        refine .skip (fun tokens ahead => keyword_of_ne (notOn _ ?_)) ?_
        · rw [Phrase.heads_words_append] at ahead
          exact ahead
        · exact Understands.step (@Understands.keyword size context _ "USING" true (by decide))
            (List.Subset.refl _) (understands_columns.last rfl)

end Joins

/-! ## Sources -/

/-- The phrase of a table and what is joined to it. -/
def sourcePhrase (phrases : Expr → Bool → Phrase) (tables : Relation → Phrase) (source : Source) :
    Phrase :=
  tables source.relation ++ .concat (source.joins.map (joinPhrase phrases tables))

/-- Whether a source is spelled by the phrases of its parts. -/
structure SpellsSource (dialect : Dialect) (depth : Nat) (phrases : Expr → Bool → Phrase)
    (tables : Relation → Phrase) (source : Source) : Prop where
  relation : SpellsRelation dialect (depth + 1) source.relation (tables source.relation)
  joins : ∀ join ∈ source.joins, SpellsJoin dialect depth phrases tables join

section Sources

variable {dialect : Dialect} {depth size level : Nat} {context : Context}
  {phrases : Expr → Bool → Phrase} {tables : Relation → Phrase} {source : Source}

theorem sqls_join (joins : List Join) : Join.sqls joins = joins.map Join.sql := by
  induction joins with
  | nil => rfl
  | cons join rest ih => exact congrArg (join.sql :: ·) ih

theorem sql_source (source : Source) :
    source.sql = source.relation.sql ++ "".intercalate (Join.sqls source.joins) := by
  cases source
  rfl

theorem cut_sourcePhrase (spells : SpellsSource dialect depth phrases tables source) :
    (sourcePhrase phrases tables source).cut = none ↔ ∀ join ∈ source.joins,
      ∀ condition ∈ join.condition, (phrases condition true).cut = none := by
  rw [sourcePhrase, Phrase.cut_append_eq_none_iff, Phrase.cut_concat_eq_none_iff,
    List.forall_mem_map]
  refine ⟨fun uncut join member => ?_, fun uncut => ⟨spells.relation.uncut, fun join member => ?_⟩⟩
  · exact (cut_joinPhrase (spells.joins join member).relation.uncut).1 (uncut.2 join member)
  · exact (cut_joinPhrase (spells.joins join member).relation.uncut).2 (uncut join member)

theorem legible_source (spells : SpellsSource dialect depth phrases tables source) :
    (sourcePhrase phrases tables source).Legible dialect := by
  refine spells.relation.legible.append (Phrase.legible_concat ?_)
  rw [List.forall_mem_map]
  exact fun join member => legible_join (spells.joins join member)

theorem text_source (spells : SpellsSource dialect depth phrases tables source) :
    (sourcePhrase phrases tables source).text = ' ' :: source.sql.toList := by
  have joins := @Phrase.text_concat Join source.joins (joinPhrase phrases tables) Join.sql
    fun join member => text_join (spells.joins join member)
  rw [sourcePhrase, Phrase.text_append, spells.relation.text, joins, sql_source, sqls_join]
  simp

/-- A table is understood together with what is joined to it. -/
theorem understands_source (spells : SpellsSource dialect depth phrases tables source)
    (speaks : context.dialect = dialect) (enough : 8 * size + 3 ≤ level)
    (room : depth < context.budget) :
    Understands size context tablesEnds (grammarOfDepth level).source
      (sourcePhrase phrases tables source) source := by
  obtain ⟨less, rfl⟩ : ∃ less, level = less + 1 := ⟨level - 1, by omega⟩
  have relation := spells.relation.reads size less context speaks (by omega) room
  have filled : ∀ join ∈ source.joins, (joinPhrase phrases tables join).pieces ≠ [] := by
    intro join _
    unfold joinPhrase
    cases join.natural <;> cases join.kind <;> exact List.cons_ne_nil _ _
  have heads : ∀ join ∈ source.joins, (joinPhrase phrases tables join).heads joinedEnds
      ⊆ joinedEnds := by
    intro join _
    rw [joinPhrase, heads_natural]
    cases join.natural with
    | true =>
        rw [if_pos rfl]
        decide
    | false => exact heads_joinKeywords join.kind
  have joins : Understands size context tablesEnds (many (Parser.join (grammarOfDepth less)))
      (.concat (source.joins.map (joinPhrase phrases tables))) source.joins :=
    .many (fun join member => understands_join (spells.joins join member) speaks (by omega) room)
      filled heads (by decide) fun tokens ahead => join_of_ahead ahead
  have follows := Understands.heads_concat_subset heads (show tablesEnds ⊆ joinedEnds by decide)
  exact relation.step (List.Subset.trans follows (List.subset_append_right _ _))
    (joins.last (by cases source; rfl))

end Sources

end Querent.Sql.Plain
