import Querent.Proofs.Sql.Plain.Bodies

/-!
# Orders, limits and offsets

Behind its body a query may state how its rows are sorted, how many of them there are at most, and
how many of them are skipped.
-/

namespace Querent.Sql.Plain

open Querent.Sql.Parser

/-! ## Sorting -/

/-- What may follow a term to sort by. -/
def keyEnds : List (Option Token) :=
  some (.symbol .comma) :: ends ["LIMIT", "OFFSET"]

/-- The words of a direction. -/
def directionWords : Option Bool → List Keyword
  | none => []
  | some true => ["ASC"]
  | some false => ["DESC"]

/-- The words for the place of missing values. -/
def nullsWords : Option Bool → List Keyword
  | none => []
  | some true => ["NULLS", "FIRST"]
  | some false => ["NULLS", "LAST"]

/-- The phrase of a term to sort by. -/
def orderPhrase (phrases : Expr → Bool → Phrase) (item : OrderItem) : Phrase :=
  phrases item.key true ++ (.words (directionWords item.ascending) ++
    .words (nullsWords item.nullsFirst))

section Order

variable {dialect : Dialect} {depth size level : Nat} {context : Context} {item : OrderItem}
  {phrases : Expr → Bool → Phrase} {ascending nullsFirst : Option Bool} {key : Expr}

theorem sql_orderItem (item : OrderItem) :
    item.sql = item.key.sql ++
      (match item.ascending with
        | some true => " ASC"
        | some false => " DESC"
        | none => "") ++
      (match item.nullsFirst with
        | some true => " NULLS FIRST"
        | some false => " NULLS LAST"
        | none => "") := by
  cases item
  rfl

theorem sqls_orderItem (items : List OrderItem) :
    OrderItem.sqls items = items.map OrderItem.sql := by
  induction items with
  | nil => rfl
  | cons item rest ih => exact congrArg (item.sql :: ·) ih

theorem cut_orderPhrase : (orderPhrase phrases item).cut = none
    ↔ (phrases item.key true).cut = none := by
  simp [orderPhrase]

theorem legible_order (spells : Spells dialect depth 0 item.key (phrases item.key)) :
    (orderPhrase phrases item).Legible dialect := by
  refine spells.legible.append (.append (Phrase.legible_words ?_) (Phrase.legible_words ?_))
  · obtain _ | _ | _ := item.ascending <;> decide
  · obtain _ | _ | _ := item.nullsFirst <;> decide

theorem text_order (spells : Spells dialect depth 0 item.key (phrases item.key)) :
    (orderPhrase phrases item).text = ' ' :: item.sql.toList := by
  rw [orderPhrase, Phrase.text_append, Phrase.text_append, spells.text_true, sql_orderItem]
  obtain _ | _ | _ := item.ascending <;> obtain _ | _ | _ := item.nullsFirst <;>
    simp [directionWords, nullsWords]

/-- What is read after a term to sort by and its direction. -/
def keyRest (key : Expr) (ascending : Option Bool) : Parser OrderItem := do
  let nullsFirst ← do
    if ← keywords ["NULLS", "FIRST"] then pure (some true)
    else if ← keywords ["NULLS", "LAST"] then pure (some false)
    else pure none
  return ⟨key, ascending, nullsFirst⟩

theorem understands_keyRest :
    Understands size context keyEnds (keyRest key ascending) (.words (nullsWords nullsFirst))
      ⟨key, ascending, nullsFirst⟩ := by
  obtain _ | _ | _ := nullsFirst
  · have noNulls : ∀ head ∈ keyEnds, head.any (·.isKeyword "NULLS") = false := by decide
    refine .nothing fun tokens ahead => ?_
    have absent (words : List Keyword) : keywords ("NULLS" :: words) context tokens
        = .ok (false, tokens) := keywords_of_ne (noNulls _ ahead)
    rw [keyRest, bind_of_ok (absent ["FIRST"]), if_neg Bool.false_ne_true,
      bind_of_ok (absent ["LAST"])]
    rfl
  · refine .plain fun located rest spelled _ _ => ?_
    obtain ⟨first, _, rfl, others⟩ := exists_of_map_eq_cons spelled
    obtain ⟨second, rfl⟩ := exists_of_map_eq_singleton others
    rfl
  · exact Understands.last (Understands.words (by decide)) rfl

theorem heads_nulls :
    (Phrase.words (nullsWords nullsFirst)).heads keyEnds
      ⊆ some (keywordToken "NULLS") :: keyEnds := by
  obtain _ | _ | _ := nullsFirst
  · exact List.subset_cons_self _ _
  · exact List.cons_subset.2 ⟨List.mem_cons_self, List.nil_subset _⟩
  · exact List.cons_subset.2 ⟨List.mem_cons_self, List.nil_subset _⟩

theorem understands_order (spells : Spells dialect depth 0 item.key (phrases item.key))
    (speaks : context.dialect = dialect) (enough : 8 * size < level)
    (room : depth < context.budget) :
    Understands size context keyEnds (orderItem (grammarOfDepth level)) (orderPhrase phrases item)
      item := by
  obtain ⟨key, ascending, nullsFirst⟩ := item
  have rest := @understands_keyRest size context ascending nullsFirst key
  have noDirection : ∀ word ∈ ["ASC", "DESC"], ∀ head ∈ some (keywordToken "NULLS") :: keyEnds,
      head.any (·.isKeyword word) = false := by decide
  have first (second : Phrase) (closes : second.heads keyEnds ⊆ closers) : Understands size context
      (second.heads keyEnds) (grammarOfDepth level).expr (phrases key true) key :=
    spells.expr true speaks enough room closes
  rw [orderPhrase, orderItem]
  obtain _ | _ | _ := ascending
  · have nothing : Phrase.words (directionWords none) ++ .words (nullsWords nullsFirst)
        = .words (nullsWords nullsFirst) := Phrase.nil_append _
    have closes : some (keywordToken "NULLS") :: keyEnds ⊆ closers := by decide
    rw [nothing]
    refine (first _ (List.Subset.trans heads_nulls closes)).step (List.Subset.refl _) ?_
    refine .skip (fun tokens ahead =>
      keyword_of_ne (noDirection "ASC" (by decide) _ (heads_nulls ahead))) ?_
    rw [if_neg Bool.false_ne_true]
    refine .skip (fun tokens ahead =>
      keyword_of_ne (noDirection "DESC" (by decide) _ (heads_nulls ahead))) ?_
    exact rest
  · have descending : ∀ head ∈ [some (keywordToken "DESC")],
        head.any (·.isKeyword "ASC") = false := by decide
    have heads : (Phrase.words ["DESC"] ++ .words (nullsWords nullsFirst)).heads keyEnds
        = [some (keywordToken "DESC")] := Phrase.heads_words_append _ _ _ _
    refine (first _ ?_).step (List.Subset.refl _) ?_
    · exact heads ▸ (show [some (keywordToken "DESC")] ⊆ closers by decide)
    refine .skip (fun tokens ahead => keyword_of_ne (descending _ (heads ▸ ahead))) ?_
    rw [if_neg Bool.false_ne_true]
    exact Understands.step (@Understands.keyword size context _ "DESC" true (by decide))
      (List.Subset.refl _) rest
  · have heads : (Phrase.words ["ASC"] ++ .words (nullsWords nullsFirst)).heads keyEnds
        = [some (keywordToken "ASC")] := Phrase.heads_words_append _ _ _ _
    refine (first _ ?_).step (List.Subset.refl _) ?_
    · exact heads ▸ (show [some (keywordToken "ASC")] ⊆ closers by decide)
    exact Understands.step (@Understands.keyword size context _ "ASC" true (by decide))
      (List.Subset.refl _) rest

end Order

/-! ## Limits and offsets -/

/-- What may follow the number of skipped rows. -/
def offsetEnds : List (Option Token) :=
  ends ["ROW", "ROWS"]

/-- What may follow the number of rows that there are at most. -/
def limitEnds : List (Option Token) :=
  ends ["OFFSET"]

/-- The words of the unit of an offset. -/
def unitWords : OffsetUnit → List Keyword
  | .unstated => []
  | .row => ["ROW"]
  | .rows => ["ROWS"]

/-- The phrase of an offset and its unit. -/
def offsetPhrase (phrases : Expr → Bool → Phrase) (offset : Option Expr) (unit : OffsetUnit) :
    Phrase :=
  termClause ["OFFSET"] phrases offset ++ .words (unitWords unit)

section Range

variable {dialect : Dialect} {depth size level : Nat} {context : Context}
  {phrases : Expr → Bool → Phrase} {limit offset : Option Expr} {unit : OffsetUnit}
  {grammar : Grammar} {tokens : List Located}

/-- One round of reading an offset, given the limit before it. -/
def offsetRound (grammar : Grammar) (limit : Option Expr)
    (given : Option (Expr × OffsetUnit)) : Parser Range := do
  let offset ← do
    if ← pure given.isNone <&&> keyword "OFFSET" then some <$> offsetRest grammar else pure given
  match limit, offset with
  | some first, none =>
    if ← dialectIn [.generic, .mySql] <&&> symbol .comma then
      return ⟨some (← grammar.expr), some (first, .unstated)⟩
    else return ⟨limit, offset⟩
  | _, _ => return ⟨limit, offset⟩

/-- Where no offset is next, what is known of it stays as it is. -/
theorem offsetRound_of_ahead {given : Option (Expr × OffsetUnit)}
    (ahead : Ahead queryEnds tokens) :
    offsetRound grammar limit given context tokens = .ok (⟨limit, given⟩, tokens) := by
  have noOffset : keyword "OFFSET" context tokens = .ok (false, tokens) :=
    keyword_of_ahead ahead (by decide)
  have noComma : symbol .comma context tokens = .ok (false, tokens) :=
    symbol_of_ahead ahead (by decide)
  have noPair : (dialectIn [.generic, .mySql] <&&> symbol .comma) context tokens
      = .ok (false, tokens) := dialectIn_and_of_false noComma
  refine (bind_of_ok (and_of_false noOffset given.isNone)).trans ?_
  rw [if_neg Bool.false_ne_true, pure_bind]
  cases limit with
  | none => rfl
  | some first =>
      cases given with
      | none => exact (bind_of_ok noPair).trans rfl
      | some offset => rfl

/-- Where no limit and no offset is next, what is known of them stays as it is. -/
theorem rangeRound_of_ahead {range : Range} (ahead : Ahead queryEnds tokens) :
    rangeRound grammar range context tokens = .ok (range, tokens) := by
  have noLimit : keyword "LIMIT" context tokens = .ok (false, tokens) :=
    keyword_of_ahead ahead (by decide)
  exact (bind_of_ok (and_of_false noLimit range.limit.isNone)).trans (offsetRound_of_ahead ahead)

theorem text_unit (unit : OffsetUnit) : (Phrase.words (unitWords unit)).text = unit.sql.toList := by
  cases unit <;> simp [unitWords, OffsetUnit.sql]

theorem heads_unit : (Phrase.words (unitWords unit)).heads queryEnds ⊆ offsetEnds := by
  cases unit with
  | unstated => exact List.subset_append_left _ _
  | row => exact List.cons_subset.2 ⟨by decide, List.nil_subset _⟩
  | rows => exact List.cons_subset.2 ⟨by decide, List.nil_subset _⟩

theorem understands_offsetRest {value : Expr}
    (spells : Spells dialect depth 0 value (phrases value)) (speaks : context.dialect = dialect)
    (enough : 8 * size < level) (room : depth < context.budget) :
    Understands size context queryEnds (offsetRest (grammarOfDepth level))
      (phrases value true ++ .words (unitWords unit)) (value, unit) := by
  have closes : offsetEnds ⊆ closers := by decide
  have noUnit : ∀ head ∈ queryEnds, head.any (·.isKeyword "ROW") = false ∧
      head.any (·.isKeyword "ROWS") = false := by decide
  have rows : (keywordToken "ROWS").isKeyword "ROW" = false := by decide
  refine (spells.expr true speaks enough room closes).step heads_unit ?_
  cases unit with
  | unstated =>
      refine .nothing fun tokens ahead => ?_
      rw [bind_of_ok (keyword_of_ne (noUnit _ ahead).1), if_neg Bool.false_ne_true,
        bind_of_ok (keyword_of_ne (noUnit _ ahead).2)]
      rfl
  | row => exact Understands.last (@Understands.keyword size context _ "ROW" true (by decide)) rfl
  | rows =>
      refine .skip (fun tokens ahead => keyword_of_ne ?_) ?_
      · rw [List.mem_singleton.1 ahead]
        exact rows
      · rw [if_neg Bool.false_ne_true]
        exact Understands.last (@Understands.keyword size context _ "ROWS" true (by decide)) rfl

theorem understands_offset (spells : ∀ term ∈ offset, Spells dialect depth 0 term (phrases term))
    (unstated : offset = none → unit = .unstated) (speaks : context.dialect = dialect)
    (enough : 8 * size < level) (room : depth < context.budget) :
    Understands size context queryEnds (offsetRound (grammarOfDepth level) limit none)
      (offsetPhrase phrases offset unit) ⟨limit, offset.map (·, unit)⟩ := by
  cases offset with
  | none =>
      cases unstated rfl
      exact .nothing fun tokens ahead => offsetRound_of_ahead ahead
  | some value =>
      have introduced : Understands size context
          ((phrases value true ++ .words (unitWords unit)).heads queryEnds)
          (pure true <&&> keyword "OFFSET") (.words ["OFFSET"]) true :=
        @Understands.keyword size context _ "OFFSET" true (by decide)
      have rest : Understands size context queryEnds (offsetRest (grammarOfDepth level))
          (phrases value true ++ .words (unitWords unit)) (value, unit) :=
        understands_offsetRest (spells value rfl) speaks enough room
      rw [offsetPhrase, termClause, Option.map_some, Phrase.clause, Phrase.append_assoc]
      refine introduced.step (List.Subset.refl _) ((rest.map some).last ?_)
      cases limit <;> rfl

theorem heads_offset (unstated : offset = none → unit = .unstated) :
    (offsetPhrase phrases offset unit).heads queryEnds ⊆ limitEnds := by
  cases offset with
  | none =>
      cases unstated rfl
      exact List.subset_append_left _ _
  | some value =>
      rw [offsetPhrase, termClause, Option.map_some, Phrase.clause, Phrase.append_assoc,
        Phrase.heads_words_append]
      decide

/-- The first round reads the limit and the offset. -/
theorem understands_range
    (spellsLimit : ∀ term ∈ limit, Spells dialect depth 0 term (phrases term))
    (spellsOffset : ∀ term ∈ offset, Spells dialect depth 0 term (phrases term))
    (unstated : offset = none → unit = .unstated) (speaks : context.dialect = dialect)
    (enough : 8 * size < level) (room : depth < context.budget) :
    Understands size context queryEnds (rangeRound (grammarOfDepth level) ⟨none, none⟩)
      (termClause ["LIMIT"] phrases limit ++ offsetPhrase phrases offset unit)
      ⟨limit, offset.map (·, unit)⟩ := by
  have rest : Understands size context queryEnds (offsetRound (grammarOfDepth level) limit none)
      (offsetPhrase phrases offset unit) ⟨limit, offset.map (·, unit)⟩ :=
    understands_offset spellsOffset unstated speaks enough room
  cases limit with
  | none =>
      have noLimit : ∀ head ∈ limitEnds, head.any (·.isKeyword "LIMIT") = false := by decide
      have absent (tokens : List Located)
          (ahead : Ahead ((offsetPhrase phrases offset unit).heads queryEnds) tokens) :
          (pure true <&&> keyword "LIMIT") context tokens = .ok (false, tokens) :=
        keyword_of_ne (noLimit _ (heads_offset unstated ahead))
      show Understands size context queryEnds _ (.plain [] ++ offsetPhrase phrases offset unit) _
      rw [Phrase.nil_append]
      exact .skip absent rest
  | some value =>
      have spells := spellsLimit value rfl
      have closes : limitEnds ⊆ closers := by decide
      have introduced : Understands size context
          ((phrases value true ++ offsetPhrase phrases offset unit).heads queryEnds)
          (pure true <&&> keyword "LIMIT") (.words ["LIMIT"]) true :=
        @Understands.keyword size context _ "LIMIT" true (by decide)
      have limited : Understands size context limitEnds (limitValue (grammarOfDepth level))
          (phrases value true) (some value) := by
        have notAll : ∀ head ∈ (phrases value true).heads limitEnds,
            head.any (·.isKeyword "ALL") = false := fun head member =>
          (spells.heads true _ head member).isKeyword_eq_false (by decide) (by decide)
        refine .skip (fun tokens ahead => keyword_of_ne (notAll _ ahead)) ?_
        exact (spells.expr true speaks enough room closes).last rfl
      rw [termClause, Option.map_some, Phrase.clause, Phrase.append_assoc]
      refine introduced.step (List.Subset.refl _) ?_
      exact limited.step (heads_offset unstated) rest

end Range

end Querent.Sql.Plain
