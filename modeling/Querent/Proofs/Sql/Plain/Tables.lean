import Querent.Proofs.Sql.Plain.Columns

/-!
# Tables and joins

Rows are read from tables and from queries in parentheses, each with or without a second name, and
from what is joined to them.

A query in parentheses is only tried where rows are read from: where it cannot be read, the
parentheses are taken for those of a table.  So no two signs may meet in it.
-/

namespace Querent.Sql.Plain

open Querent.Sql.Parser

/-! ## What follows tables -/

/-- What may follow the tables of a selection, up to the next of them. -/
def tablesEnds : List (Option Token) :=
  some (.symbol .comma) :: ends (["WHERE", "GROUP", "HAVING"] ++ bodyWords)

/-- What may follow a joined table and its constraint. -/
def joinedEnds : List (Option Token) :=
  ["JOIN", "LEFT", "RIGHT", "FULL", "CROSS", "OUTER", "NATURAL"].map (some ∘ keywordToken) ++
    tablesEnds

/-- What may follow a table. -/
def tableEnds : List (Option Token) :=
  ["ON", "USING"].map (some ∘ keywordToken) ++ joinedEnds

/-! ## Lists of names -/

/-- The phrase of some names in parentheses. -/
def columnsPhrase (apart : Bool) (first : Ident) (others : List Ident) : Phrase :=
  parens apart (listed false (fun name apart => .one apart (nameToken name)) first others)

section Columns

variable {dialect : Dialect} {size : Nat} {context : Context} {later : List (Option Token)}
  {first : Ident} {others : List Ident}

theorem cut_columns (apart : Bool) : (columnsPhrase apart first others).cut = none := by
  simp [columnsPhrase, cut_listed_eq_none_iff]

theorem legible_columns (names : ∀ name ∈ first :: others, IsName dialect name) (apart : Bool) :
    (columnsPhrase apart first others).Legible dialect := by
  rw [List.forall_mem_cons] at names
  refine Phrase.legible_parens apart ?_
  refine Phrase.clear_separated_cons (by decide) (clear_name names.1 false) ?_
  rw [List.forall_mem_map]
  exact fun name member => legible_name (names.2 name member)

theorem text_columns (names : ∀ name ∈ first :: others, IsName dialect name) (apart : Bool) :
    (columnsPhrase apart first others).text
      = (if apart then [' '] else []) ++ ("(" ++ identList (first :: others) ++ ")").toList := by
  rw [List.forall_mem_cons] at names
  have inner : (listed false (fun name apart => .one apart (nameToken name)) first others).text
      = ([] : List Char) ++ (commaJoined (first.sql :: others.map Ident.sql)).toList := by
    refine Phrase.text_separated_cons ?_ fun name member => ?_
    · simp [text_nameToken names.1]
    · simp [text_nameToken (names.2 name member)]
  rw [columnsPhrase, text_parens, inner]
  simp [identList]

theorem understands_ident {name : Ident} {apart : Bool} :
    Understands size context later ident (.one apart (nameToken name)) name := by
  refine .one fun position rest _ _ => ?_
  rw [ident, bind_of_ok next_eq]
  simp only [List.head?_cons, tokenOf_some, nameToken, ident_wordOf, List.tail_cons]
  rfl

theorem understands_columns {apart : Bool} :
    Understands size context later columns (columnsPhrase apart first others)
      (first :: others) := by
  have names : Understands size context closing (commaSeparated ident)
      (listed false (fun name apart => .one apart (nameToken name)) first others)
      (first :: others) :=
    understands_listed false (fun _ _ _ => understands_ident) (by decide)
  refine Understands.symbol.step (List.Subset.refl _) ?_
  exact names.step (List.Subset.refl _) (Understands.expectSymbol.last rfl)

end Columns

/-! ## Second names -/

/-- The phrase of the columns of a second name, if it has some. -/
def labelColumns : List Ident → Phrase
  | [] => .plain []
  | first :: others => columnsPhrase true first others

/-- The phrase of the second name of a table and its columns. -/
def tableLabel : Option TableAlias → Phrase
  | none => .plain []
  | some label => labelPhrase label.name ++ labelColumns label.columns

section Labels

variable {dialect : Dialect} {size : Nat} {context : Context} {later : List (Option Token)}
  {columns : List Ident} {label : Option TableAlias}

theorem cut_labelColumns : (labelColumns columns).cut = none := by
  cases columns with
  | nil => rfl
  | cons first others => exact cut_columns true

theorem legible_labelColumns (names : ∀ name ∈ columns, IsName dialect name) :
    (labelColumns columns).Legible dialect := by
  cases columns with
  | nil => exact .nothing
  | cons first others => exact legible_columns names true

theorem text_labelColumns (names : ∀ name ∈ columns, IsName dialect name) :
    (labelColumns columns).text
      = (onlyIf (!columns.isEmpty) (" (" ++ identList columns ++ ")")).toList := by
  cases columns with
  | nil => rfl
  | cons first others =>
      rw [labelColumns, text_columns names true]
      simp [onlyIf]

/-- Where columns may be left out, they are read all the same. -/
theorem understands_labelColumns (noParen : some (.symbol .openParen) ∉ later) :
    Understands size context later optionalColumns (labelColumns columns) columns := by
  cases columns with
  | nil =>
      refine .nothing fun tokens ahead => ?_
      rw [optionalColumns, bind_of_ok (symbol_of_ahead ahead noParen)]
      rfl
  | cons first others =>
      refine understands_columns.congr fun tokens ahead _ => ?_
      have opens : tokenOf tokens.head? = some (.symbol .openParen) :=
        List.mem_singleton.1 (heads_parens _ _ ▸ ahead)
      cases tokens with
      | nil => cases opens
      | cons located rest =>
          obtain ⟨token, position⟩ := located
          cases opens
          rfl

theorem cut_tableLabel : (tableLabel label).cut = none := by
  cases label with
  | none => rfl
  | some label => exact Phrase.cut_append_eq_none_iff.2 ⟨rfl, cut_labelColumns⟩

theorem legible_tableLabel (labels : ∀ found ∈ label, IsLabel dialect found) :
    (tableLabel label).Legible dialect := by
  cases label with
  | none => exact .nothing
  | some label =>
      obtain ⟨isName, names⟩ := List.forall_mem_cons.1 (labels label rfl)
      exact (legible_label isName).append (legible_labelColumns names)

theorem text_tableLabel (labels : ∀ found ∈ label, IsLabel dialect found) :
    (tableLabel label).text = (aliasSql label).toList := by
  cases label with
  | none => rfl
  | some label =>
      obtain ⟨isName, names⟩ := List.forall_mem_cons.1 (labels label rfl)
      rw [tableLabel, Phrase.text_append, text_label isName, text_labelColumns names]
      simp [aliasSql, optionClause, TableAlias.sql]

theorem heads_tableLabel (later : List (Option Token)) :
    (tableLabel label).heads later ⊆ some (keywordToken "AS") :: later := by
  cases label with
  | none => exact List.subset_cons_self _ _
  | some label =>
      rw [tableLabel, Phrase.heads_append]
      exact List.cons_subset.2 ⟨List.mem_cons_self, List.nil_subset _⟩

theorem understands_tableLabel :
    Understands size context tableEnds optionalTableAlias (tableLabel label) label := by
  have stops : ∀ head ∈ tableEnds, head.any (·.isKeyword "AS") = false ∧
      stopsAlias Keyword.endingTable head = true := by decide
  cases label with
  | none =>
      refine .nothing fun tokens ahead => ?_
      rw [optionalTableAlias,
        bind_of_ok (optionalAlias_of_stops (stops _ ahead).1 (stops _ ahead).2)]
      rfl
  | some label =>
      refine understands_label.step (List.Subset.refl _) ?_
      exact (understands_labelColumns (by decide)).last rfl

end Labels

/-! ## Tables -/

/-- How something that rows are read from is written, and that it is read as a whole. -/
structure SpellsRelation (dialect : Dialect) (depth : Nat) (relation : Relation)
    (phrase : Phrase) : Prop where
  legible : phrase.Legible dialect
  text : phrase.text = ' ' :: relation.sql.toList
  uncut : phrase.cut = none
  reads : ∀ size level context, context.dialect = dialect → 8 * size + 2 ≤ level →
    depth ≤ context.budget →
      Understands size context tableEnds (grammarOfDepth level).relation phrase relation

section Relations

variable {dialect : Dialect} {depth size : Nat} {context : Context} {grammar : Grammar}
  {relation : Relation} {tokens : List Located} {first : Ident} {others : List Ident}
  {label : Option TableAlias}

theorem understands_qualifiedName {apart : Bool} {later : List (Option Token)}
    (noPeriod : some (.symbol .period) ∉ later) :
    Understands size context later qualifiedName (qualified apart first others)
      (first :: others) := by
  refine .plain fun located rest spelled ahead _ => ?_
  obtain ⟨position, behind, rfl, last⟩ := exists_of_map_eq_cons spelled
  have fewer := length_path last
  rw [qualifiedName, bind_of_ok get_eq]
  exact qualifiedNameUpTo_of_path last (Ahead.ne ahead noPeriod)
    (by simp only [List.length_append, List.length_cons]; omega)

theorem tableHints_of_ne (other : (tokenOf tokens.head?).any (·.isKeyword "WITH") = false) :
    tableHints grammar context tokens = .ok ([], tokens) := by
  rw [tableHints, bind_of_ok get_eq, bind_of_ok (keyword_of_ne other)]
  rfl

theorem turns_of_ahead (ahead : Ahead tableEnds tokens) :
    turns grammar relation context tokens = .ok (relation, tokens) := by
  have others : ∀ head ∈ tableEnds, head.any (·.isKeyword "PIVOT") = false ∧
      head.any (·.isKeyword "UNPIVOT") = false := by decide
  rw [turns, bind_of_ok get_eq, turnsUpTo, bind_of_ok (keyword_of_ne (others _ ahead).1)]
  exact bind_of_ok (keyword_of_ne (others _ ahead).2)

theorem understands_tableRest :
    Understands size context tableEnds (tableRest grammar)
      (qualified true first others ++ tableLabel label)
      (.table (first :: others) [] false [] label []) := by
  have follows := @heads_tableLabel label tableEnds
  have noPartition : ∀ head ∈ some (keywordToken "AS") :: tableEnds,
      head.any (·.isKeyword "PARTITION") = false := by decide
  have noHints : ∀ head ∈ tableEnds, head.any (·.isKeyword "WITH") = false := by decide
  refine (understands_qualifiedName (by decide)).step follows ?_
  refine .skip (fun tokens ahead =>
    dialectIn_and_keyword_of_ne (noPartition _ (follows ahead))) ?_
  rw [if_neg Bool.false_ne_true, pure_bind]
  refine .skip (fun tokens ahead => symbol_of_ahead (ahead.mono follows) (by decide)) ?_
  rw [if_neg Bool.false_ne_true, pure_bind]
  refine understands_tableLabel.finish fun tokens ahead => ?_
  rw [bind_of_ok (tableHints_of_ne (noHints _ ahead))]
  exact turns_of_ahead ahead

/-- A relation that starts with a free word is a table. -/
theorem spells_table (names : ∀ name ∈ first :: others, IsName dialect name) (free : IsFree first)
    (labels : ∀ found ∈ label, IsLabel dialect found) :
    SpellsRelation dialect depth (.table (first :: others) [] false [] label [])
      (qualified true first others ++ tableLabel label) where
  legible := by
    refine .append ⟨clear_qualified names true, ?_⟩ (legible_tableLabel labels)
    exact Phrase.breaks_of_apart (by rintro _ ⟨⟩; rfl)
  text := by
    have printed : (Relation.table (first :: others) [] false [] label []).sql
        = QualifiedName.sql (first :: others) ++ "" ++ "" ++ aliasSql label ++ "" := rfl
    rw [Phrase.text_append, text_qualified names, text_tableLabel labels, printed]
    simp
  uncut := Phrase.cut_append_eq_none_iff.2 ⟨rfl, cut_tableLabel⟩
  reads := by
    intro size level context _ enough _
    obtain ⟨less, rfl⟩ : ∃ less, level = less + 1 := ⟨level - 1, by omega⟩
    have rest := @understands_tableRest size context (grammarOfDepth less) first others label
    refine rest.congr fun tokens ahead _ => ?_
    have named : tokenOf tokens.head? = some (nameToken first) := by
      rw [qualified, Phrase.append_assoc, Phrase.heads_one_append] at ahead
      exact List.mem_singleton.1 ahead
    have word (special : Keyword) (known : special ∈ ["LATERAL", "TABLE", "UNNEST"]) :
        (tokenOf tokens.head?).any (·.isKeyword special) = false := by
      have among : ∀ special ∈ ["LATERAL", "TABLE", "UNNEST"], special ∈ reserved := by decide
      rw [named]
      exact isKeyword_nameToken free (among special known)
    have notParen : tokenOf tokens.head? ≠ some (.symbol .openParen) := by
      rw [named]
      simp [nameToken]
    show relationRule (grammarOfDepth less) context tokens = _
    rw [relationRule, bind_of_ok (keyword_of_ne (word "LATERAL" (by decide))),
      if_neg Bool.false_ne_true, bind_of_ok (keyword_of_ne (word "TABLE" (by decide))),
      if_neg Bool.false_ne_true, bind_of_ok (symbol_of_ne notParen), if_neg Bool.false_ne_true,
      bind_of_ok (dialectIn_and_keyword_of_ne (word "UNNEST" (by decide))),
      if_neg Bool.false_ne_true]

/-- What may fail is read where it is understood and no two signs meet in it. -/
theorem Understands.attempt {α : Type} {parser : Parser α} {phrase : Phrase} {value : α}
    {later : List (Option Token)} (uncut : phrase.cut = none)
    (understands : Understands size context later parser phrase value) :
    Understands size context later (Parser.attempt parser) phrase (some value) := by
  intro located rest few spelled
  have read := (Phrase.gives_of_uncut uncut).1 (understands located rest few spelled)
  rw [Phrase.gives_of_uncut uncut, Parser.attempt, read]

/-- In parentheses a query is tried first. -/
theorem relationRule_of_openParen {grammar : Grammar} {context : Context} {position : Position}
    {tokens : List Located} :
    relationRule grammar context (⟨.symbol .openParen, position⟩ :: tokens)
      = (Parser.attempt (derivedRest grammar false) >>= fun found =>
          found.elim (nestedRest grammar) (turns grammar)) context tokens := by
  rw [relationRule, bind_of_ok (keyword_of_ne rfl), if_neg Bool.false_ne_true,
    bind_of_ok (keyword_of_ne rfl), if_neg Bool.false_ne_true, bind_of_ok symbol_of_eq, if_pos rfl]
  refine congrArg (fun next => (Parser.attempt (derivedRest grammar false) >>= next) context tokens)
    (funext fun found => ?_)
  cases found <;> rfl

/-- A query in parentheses that can be read is where rows are read from. -/
theorem spells_derived {query : Query} {inner : Bool → Phrase}
    (labels : ∀ found ∈ label, IsLabel dialect found)
    (spells : SpellsQuery dialect depth query inner) (uncut : (inner false).cut = none) :
    SpellsRelation dialect depth (.derived false query label)
      (parens true (inner false) ++ tableLabel label) where
  legible := (Phrase.legible_parens true (spells.clear false)).append (legible_tableLabel labels)
  text := by
    have printed : (Relation.derived false query label).sql
        = "" ++ "(" ++ query.sql ++ ")" ++ aliasSql label := rfl
    rw [Phrase.text_append, text_parens, spells.text, text_tableLabel labels, printed]
    simp
  uncut := Phrase.cut_append_eq_none_iff.2 ⟨cut_parens.2 uncut, cut_tableLabel⟩
  reads := by
    intro size level context speaks enough room
    obtain ⟨less, rfl⟩ : ∃ less, level = less + 1 := ⟨level - 1, by omega⟩
    have inside (fewer : Nat) (few : fewer < size) : Understands fewer context tableEnds
        (derivedRest (grammarOfDepth less) false)
        (inner false ++ (.one false (.symbol .closeParen) ++ tableLabel label))
        (.derived false query label) := by
      refine (spells.reads fewer less context false closing speaks (by omega) room
        (by decide)).step ?_ ?_
      · rw [Phrase.heads_one_append]
        exact List.Subset.refl _
      · exact Understands.expectSymbol.step (List.Subset.refl _) (understands_tableLabel.last rfl)
    have whole : (inner false ++ (.one false (.symbol .closeParen) ++ tableLabel label)).cut
        = none := by
      simp [uncut, cut_tableLabel]
    rw [parens, Phrase.append_assoc, Phrase.append_assoc]
    refine .leadingOne _ (fun _ _ _ _ => relationRule_of_openParen) fun fewer few => ?_
    exact (inside fewer few).attempt whole |>.finish fun tokens ahead => turns_of_ahead ahead

end Relations

end Querent.Sql.Plain
