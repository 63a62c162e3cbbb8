import Querent.Proofs.Sql.Plain.Queries

/-!
# Plain terms in writing

Every plain term is spelled by a phrase, put together of the phrases of its parts.  Two signs meet
in this phrase exactly where the term is not strict.
-/

namespace Querent.Sql.Plain

open Querent.Sql.Parser

/--
Whether no two signs meet in the phrases of a strict tree, and a tree is strict if no two signs meet
in one of its phrases.
-/
def Parted (strict : Bool) (phrase : Bool → Phrase) (isStrict : Prop) : Prop :=
  ∀ apart, (strict = true → (phrase apart).cut = none) ∧ ((phrase apart).cut = none → isStrict)

/-- Whether an expression is spelled by a phrase, in which two signs meet where it is not strict. -/
def IsWritten (dialect : Dialect) (strict : Bool) (depth least : Nat) (value : Expr) : Prop :=
  ∃ phrase, Spells dialect depth least value phrase ∧
    Parted strict phrase (IsTerm dialect true depth least value)

/-- Whether a relation is spelled by a phrase. -/
def IsWrittenRelation (dialect : Dialect) (depth : Nat) (relation : Relation) : Prop :=
  ∃ phrase, SpellsRelation dialect depth relation phrase

/-- Whether a body is spelled by a phrase, in which two signs meet where it is not strict. -/
def IsWrittenBody (dialect : Dialect) (strict : Bool) (depth least : Nat) (body : Body) : Prop :=
  ∃ phrase, SpellsBody dialect depth least body phrase ∧
    Parted strict phrase (IsBody dialect true depth least body)

/-- Whether a query is spelled by a phrase, in which two signs meet where it is not strict. -/
def IsWrittenQuery (dialect : Dialect) (strict : Bool) (depth : Nat) (query : Query) : Prop :=
  ∃ phrase, SpellsQuery dialect depth query phrase ∧
    Parted strict phrase (IsQuery dialect true depth query)

/-- A phrase in which no signs can meet is that of a strict tree. -/
theorem Parted.of_uncut {strict : Bool} {phrase : Bool → Phrase} {isStrict : Prop}
    (uncut : ∀ apart, (phrase apart).cut = none) (always : isStrict) :
    Parted strict phrase isStrict :=
  fun apart => ⟨fun _ => uncut apart, fun _ => always⟩

/-! ## A phrase for each of several parts -/

section Chosen

variable {dialect : Dialect} {strict : Bool} {depth : Nat} {phrases : Expr → Bool → Phrase}

instance : Nonempty Phrase :=
  ⟨.plain []⟩

/-- Whether expressions that are spelled by some phrase are spelled by one that is chosen. -/
def Chooses (dialect : Dialect) (strict : Bool) (depth : Nat) (phrases : Expr → Bool → Phrase) :
    Prop :=
  ∀ value, IsWritten dialect strict depth 0 value → Spells dialect depth 0 value (phrases value) ∧
    Parted strict (phrases value) (IsTerm dialect true depth 0 value)

theorem exists_chooses (dialect : Dialect) (strict : Bool) (depth : Nat) :
    ∃ phrases, Chooses dialect strict depth phrases :=
  ⟨fun _ => Classical.epsilon _, fun _ written => Classical.epsilon_spec written⟩

theorem exists_tables (dialect : Dialect) (depth : Nat) :
    ∃ tables : Relation → Phrase, ∀ relation, IsWrittenRelation dialect depth relation →
      SpellsRelation dialect depth relation (tables relation) :=
  ⟨fun _ => Classical.epsilon _, fun _ written => Classical.epsilon_spec written⟩

theorem exists_inner (dialect : Dialect) (strict : Bool) (depth : Nat) :
    ∃ inner : Query → Bool → Phrase, ∀ query, IsWrittenQuery dialect strict depth query →
      SpellsQuery dialect depth query (inner query) ∧
        Parted strict (inner query) (IsQuery dialect true depth query) :=
  ⟨fun _ => Classical.epsilon _, fun _ written => Classical.epsilon_spec written⟩

/-- No two signs meet in the phrases of strict terms, and terms are strict if none meet there. -/
theorem Chooses.parted (chooses : Chooses dialect strict depth phrases) {given : Expr → Prop}
    (written : ∀ value, given value → IsWritten dialect strict depth 0 value) :
    (strict = true → ∀ value, given value → (phrases value true).cut = none) ∧
      ((∀ value, given value → (phrases value true).cut = none) →
        ∀ value, given value → IsTerm dialect true depth 0 value) :=
  ⟨fun same value member => ((chooses value (written value member)).2 true).1 same,
    fun uncut value member => ((chooses value (written value member)).2 true).2
      (uncut value member)⟩

theorem Chooses.parted_listed (chooses : Chooses dialect strict depth phrases) {first : Expr}
    {others : List Expr} (written : ∀ item ∈ first :: others, IsWritten dialect strict depth 0 item)
    (apart : Bool) :
    (strict = true → (listed apart phrases first others).cut = none) ∧
      ((listed apart phrases first others).cut = none →
        ∀ item ∈ first :: others, IsTerm dialect true depth 0 item) := by
  rw [List.forall_mem_cons] at written
  obtain ⟨_, parted⟩ := chooses first written.1
  obtain ⟨uncutOthers, strictOthers⟩ := chooses.parted written.2
  rw [cut_listed_eq_none_iff, List.forall_mem_cons]
  exact ⟨fun same => ⟨(parted apart).1 same, uncutOthers same⟩,
    fun uncut => ⟨(parted apart).2 uncut.1, strictOthers uncut.2⟩⟩

theorem Chooses.spellsAll (chooses : Chooses dialect strict depth phrases) {items : List Expr}
    (written : ∀ item ∈ items, IsWritten dialect strict depth 0 item) :
    SpellsAll dialect depth items phrases :=
  fun item member => (chooses item (written item member)).1

end Chosen

/-! ## Terms -/

namespace IsWritten

variable {dialect : Dialect} {strict : Bool} {depth least : Nat} {operand left right : Expr}
  {query : Query}

theorem name {name : Ident} (isName : IsName dialect name) (free : IsFree name) :
    IsWritten dialect strict depth least (.name name) :=
  ⟨_, spells_name isName free, .of_uncut (fun _ => rfl) (.name isName free)⟩

theorem compound {first second : Ident} {others : List Ident}
    (names : ∀ name ∈ first :: second :: others, IsName dialect name) (free : IsFree first) :
    IsWritten dialect strict depth least (.compound (first :: second :: others)) :=
  ⟨_, spells_compound names free, .of_uncut (fun _ => rfl) (.compound names free)⟩

theorem literal {value : Literal} (isValue : IsValue value) :
    IsWritten dialect strict depth least (.literal value) :=
  ⟨_, spells_literal isValue, .of_uncut (fun _ => rfl) (.literal isValue)⟩

theorem nested (written : IsWritten dialect strict depth 0 operand) :
    IsWritten dialect strict (depth + 1) least (.nested operand) := by
  obtain ⟨inner, spells, parted⟩ := written
  refine ⟨_, spells_nested spells, fun apart => ?_⟩
  rw [cut_parens]
  exact ⟨(parted false).1, fun uncut => .nested ((parted false).2 uncut)⟩

theorem tuple {first second : Expr} {others : List Expr}
    (written : ∀ item ∈ first :: second :: others, IsWritten dialect strict depth 0 item) :
    IsWritten dialect strict (depth + 1) least (.tuple (first :: second :: others)) := by
  obtain ⟨phrases, chooses⟩ := exists_chooses dialect strict depth
  refine ⟨_, spells_tuple (chooses.spellsAll written), fun apart => ?_⟩
  obtain ⟨uncut, isStrict⟩ := chooses.parted_listed written false
  rw [cut_parens]
  exact ⟨uncut, fun apart => .tuple (isStrict apart)⟩

theorem sign {operator : UnaryOperator} (known : IsSign dialect operator)
    (apart : strict = true → ¬ Meets operator operand)
    (written : IsWritten dialect strict depth (signPrecedence operator) operand) :
    IsWritten dialect strict depth least (.unary operator operand) := by
  obtain ⟨behind, spells, parted⟩ := written
  obtain ⟨mark, sign⟩ := exists_sign known
  by_cases meets : Meets operator operand
  · refine ⟨_, spells_meeting known sign meets spells, fun _ => ⟨fun same => ?_, nofun⟩⟩
    exact absurd meets (apart same)
  · refine ⟨_, spells_sign known sign meets spells, fun _ => ?_⟩
    simp only [Phrase.cut_append_eq_none_iff, Phrase.cut_one, true_and]
    exact ⟨(parted false).1, fun uncut => .sign known (fun _ => meets) ((parted false).2 uncut)⟩

theorem negation (other : opening operand ≠ some (keywordToken "EXISTS"))
    (written : IsWritten dialect strict depth negationPrecedence operand) :
    IsWritten dialect strict depth least (.unary .not operand) := by
  obtain ⟨behind, spells, parted⟩ := written
  refine ⟨_, spells_negation other spells, fun _ => ?_⟩
  simp only [Phrase.cut_append_eq_none_iff, Phrase.cut_one, true_and]
  exact ⟨(parted true).1, fun uncut => .negation other ((parted true).2 uncut)⟩

theorem binary {operator : BinaryOperator} (known : operator ∈ operators)
    (tight : least < precedenceOf operator) (loose : precedenceOf operator ≤ edge left)
    (leftWritten : IsWritten dialect strict depth least left)
    (rightWritten : IsWritten dialect strict depth (precedenceOf operator) right) :
    IsWritten dialect strict depth least (.binary left operator right) := by
  obtain ⟨before, spellsLeft, partedLeft⟩ := leftWritten
  obtain ⟨behind, spellsRight, partedRight⟩ := rightWritten
  refine ⟨_, spells_binary known tight loose spellsLeft spellsRight, fun apart => ?_⟩
  simp only [Phrase.cut_append_eq_none_iff, Phrase.cut_one, true_and]
  exact ⟨fun same => ⟨(partedLeft apart).1 same, (partedRight true).1 same⟩, fun uncut =>
    .binary known tight loose ((partedLeft apart).2 uncut.1) ((partedRight true).2 uncut.2)⟩

theorem test (negated : Bool) (property : Test) (tight : least < testPrecedence)
    (loose : testPrecedence ≤ edge operand)
    (written : IsWritten dialect strict depth least operand) :
    IsWritten dialect strict depth least (.test operand negated property) := by
  obtain ⟨before, spells, parted⟩ := written
  refine ⟨_, spells_test negated property tight loose spells, fun apart => ?_⟩
  simp only [Phrase.cut_append_eq_none_iff, Phrase.cut_words, Phrase.cut_plain, and_true]
  exact ⟨(parted apart).1, fun uncut => .test negated property tight loose ((parted apart).2 uncut)⟩

theorem distinctFrom (negated : Bool) (tight : least < testPrecedence)
    (loose : testPrecedence ≤ edge left)
    (leftWritten : IsWritten dialect strict (depth + 1) least left)
    (rightWritten : IsWritten dialect strict depth 0 right) :
    IsWritten dialect strict (depth + 1) least (.distinctFrom left negated right) := by
  obtain ⟨before, spellsLeft, partedLeft⟩ := leftWritten
  obtain ⟨behind, spellsRight, partedRight⟩ := rightWritten
  refine ⟨_, spells_distinctFrom negated tight loose spellsLeft spellsRight, fun apart => ?_⟩
  simp only [Phrase.cut_append_eq_none_iff, Phrase.cut_words, true_and]
  exact ⟨fun same => ⟨(partedLeft apart).1 same, (partedRight true).1 same⟩, fun uncut =>
    .distinctFrom negated tight loose ((partedLeft apart).2 uncut.1) ((partedRight true).2 uncut.2)⟩

theorem between {low high : Expr} (negated : Bool) (tight : least < rangePrecedence)
    (loose : rangePrecedence ≤ edge operand) (looseLow : precedenceOf (.keyword "AND") ≤ edge low)
    (written : IsWritten dialect strict depth least operand)
    (lowWritten : IsWritten dialect strict depth rangePrecedence low)
    (highWritten : IsWritten dialect strict depth rangePrecedence high) :
    IsWritten dialect strict depth least (.between operand negated low high) := by
  obtain ⟨before, spells, parted⟩ := written
  obtain ⟨lowPhrase, spellsLow, partedLow⟩ := lowWritten
  obtain ⟨highPhrase, spellsHigh, partedHigh⟩ := highWritten
  refine ⟨_, spells_between negated tight loose looseLow spells spellsLow spellsHigh,
    fun apart => ?_⟩
  simp only [Phrase.cut_append_eq_none_iff, Phrase.cut_words, true_and]
  exact ⟨fun same => ⟨(parted apart).1 same, (partedLow true).1 same, (partedHigh true).1 same⟩,
    fun uncut => .between negated tight loose looseLow ((parted apart).2 uncut.1)
      ((partedLow true).2 uncut.2.1) ((partedHigh true).2 uncut.2.2)⟩

theorem matching {pattern : Expr} (negated : Bool) (kind : Match)
    (tight : least < patternPrecedence)
    (loose : (if negated then rangePrecedence else patternPrecedence) ≤ edge operand)
    (written : IsWritten dialect strict depth least operand)
    (patternWritten : IsWritten dialect strict depth patternPrecedence pattern) :
    IsWritten dialect strict depth least (.matching operand negated kind pattern none) := by
  obtain ⟨before, spells, parted⟩ := written
  obtain ⟨behind, spellsPattern, partedPattern⟩ := patternWritten
  refine ⟨_, spells_matching negated kind tight loose spells spellsPattern, fun apart => ?_⟩
  simp only [Phrase.cut_append_eq_none_iff, Phrase.cut_words, true_and]
  exact ⟨fun same => ⟨(parted apart).1 same, (partedPattern true).1 same⟩, fun uncut =>
    .matching negated kind tight loose ((parted apart).2 uncut.1) ((partedPattern true).2 uncut.2)⟩

theorem inList {first : Expr} {others : List Expr} (negated : Bool)
    (tight : least < rangePrecedence) (loose : rangePrecedence ≤ edge operand)
    (written : IsWritten dialect strict (depth + 1) least operand)
    (itemsWritten : ∀ item ∈ first :: others, IsWritten dialect strict depth 0 item) :
    IsWritten dialect strict (depth + 1) least (.inList operand negated (first :: others)) := by
  obtain ⟨before, spells, parted⟩ := written
  obtain ⟨phrases, chooses⟩ := exists_chooses dialect strict depth
  obtain ⟨uncutItems, strictItems⟩ := chooses.parted_listed itemsWritten false
  refine ⟨_, spells_inList negated tight loose spells (chooses.spellsAll itemsWritten),
    fun apart => ?_⟩
  simp only [Phrase.cut_append_eq_none_iff, Phrase.cut_words, cut_parens, true_and]
  exact ⟨fun same => ⟨(parted apart).1 same, uncutItems same⟩, fun uncut =>
    .inList negated tight loose ((parted apart).2 uncut.1) (strictItems uncut.2)⟩

theorem inQuery (negated : Bool) (tight : least < rangePrecedence)
    (loose : rangePrecedence ≤ edge operand) (told : IsTold query)
    (written : IsWritten dialect strict depth least operand)
    (queryWritten : IsWrittenQuery dialect strict depth query) :
    IsWritten dialect strict depth least (.inQuery operand negated query) := by
  obtain ⟨before, spells, parted⟩ := written
  obtain ⟨inner, spellsQuery, partedQuery⟩ := queryWritten
  refine ⟨_, spells_inQuery negated tight loose told spells spellsQuery, fun apart => ?_⟩
  simp only [Phrase.cut_append_eq_none_iff, Phrase.cut_words, cut_parens, true_and]
  exact ⟨fun same => ⟨(parted apart).1 same, (partedQuery false).1 same⟩, fun uncut =>
    .inQuery negated tight loose told ((parted apart).2 uncut.1) ((partedQuery false).2 uncut.2)⟩

theorem case {given otherwise : Option Expr} {condition result : Expr}
    {others : List (Expr × Expr)} (written : ∀ term ∈ given, IsWritten dialect strict depth 0 term)
    (branches : ∀ branch ∈ (condition, result) :: others,
      IsWritten dialect strict depth 0 branch.1 ∧ IsWritten dialect strict depth 0 branch.2)
    (otherwiseWritten : ∀ term ∈ otherwise, IsWritten dialect strict depth 0 term) :
    IsWritten dialect strict (depth + 1) least (.case given (condition :: others.map (·.1))
      (result :: others.map (·.2)) otherwise) := by
  obtain ⟨phrases, chooses⟩ := exists_chooses dialect strict depth
  obtain ⟨uncutGiven, strictGiven⟩ := chooses.parted written
  obtain ⟨uncutOtherwise, strictOtherwise⟩ := chooses.parted otherwiseWritten
  refine ⟨_, spells_case (fun term found => (chooses term (written term found)).1)
    (fun branch member => ⟨(chooses _ (branches branch member).1).1,
      (chooses _ (branches branch member).2).1⟩)
    (fun term found => (chooses term (otherwiseWritten term found)).1), fun apart => ?_⟩
  rw [cut_casePhrase]
  refine ⟨fun same => ⟨uncutGiven same, fun branch member => ?_, uncutOtherwise same⟩,
    fun ⟨uncut, uncutBranches, uncutLast⟩ => ?_⟩
  · exact ⟨((chooses _ (branches branch member).1).2 true).1 same,
      ((chooses _ (branches branch member).2).2 true).1 same⟩
  · have strictBranches : ∀ branch ∈ (condition, result) :: others,
        IsTerm dialect true depth 0 branch.1 ∧ IsTerm dialect true depth 0 branch.2 :=
      fun branch member => ⟨((chooses _ (branches branch member).1).2 true).2
          (uncutBranches branch member).1, ((chooses _ (branches branch member).2).2 true).2
          (uncutBranches branch member).2⟩
    obtain ⟨⟨strictCondition, strictResult⟩, strictOthers⟩ := List.forall_mem_cons.1 strictBranches
    exact .case (strictGiven uncut) strictCondition strictResult
      (fun branch member => (strictOthers branch member).1)
      (fun branch member => (strictOthers branch member).2) (strictOtherwise uncutLast)

theorem cast {type : DataType} (kind : Cast) (isType : IsType type)
    (written : IsWritten dialect strict depth 0 operand) :
    IsWritten dialect strict (depth + 1) least (.cast kind operand type none) := by
  obtain ⟨before, spells, parted⟩ := written
  refine ⟨_, spells_cast kind isType spells, fun apart => ?_⟩
  simp only [Phrase.cut_append_eq_none_iff, Phrase.cut_one, Phrase.cut_words, cut_parens,
    cut_typePhrase, true_and, and_true]
  exact ⟨(parted false).1, fun uncut => .cast kind isType ((parted false).2 uncut)⟩

theorem call {function : Ident} {path : List Ident} {first : Expr} {others : List Expr}
    (names : ∀ name ∈ function :: path, IsName dialect name) (callable : IsCallable function)
    (distinct : Bool) (written : ∀ item ∈ first :: others, IsWritten dialect strict depth 0 item) :
    IsWritten dialect strict (depth + 1) least
      (.call (function :: path) false distinct (first :: others) [] none none none) := by
  obtain ⟨phrases, chooses⟩ := exists_chooses dialect strict depth
  obtain ⟨uncutItems, strictItems⟩ := chooses.parted_listed written distinct
  refine ⟨_, spells_call names callable distinct (chooses.spellsAll written), fun apart => ?_⟩
  simp only [Phrase.cut_append_eq_none_iff, cut_parens, qualified, Plain.path, distinctness,
    Phrase.cut_one, Phrase.cut_plain, true_and]
  exact ⟨uncutItems, fun uncut => .call names callable distinct (strictItems uncut)⟩

theorem bareCall {function : Ident} {path : List Ident}
    (names : ∀ name ∈ function :: path, IsName dialect name) (callable : IsCallable function)
    (all : Bool) :
    IsWritten dialect strict depth least
      (.call (function :: path) false false (if all then [.wildcard] else []) [] none none none) :=
  ⟨_, spells_bareCall names callable all, .of_uncut (fun _ => rfl) (.bareCall names callable all)⟩

theorem existence (negated : Bool) (written : IsWrittenQuery dialect strict depth query) :
    IsWritten dialect strict depth least (.exists negated query) := by
  obtain ⟨inner, spells, parted⟩ := written
  refine ⟨_, spells_exists negated spells, fun apart => ?_⟩
  have uncut : (existsPhrase negated inner apart).cut = none ↔ (inner false).cut = none := by
    cases negated <;> simp [existsPhrase]
  rw [uncut]
  exact ⟨(parted false).1, fun uncut => .exists negated ((parted false).2 uncut)⟩

theorem subquery (told : IsTold query) (written : IsWrittenQuery dialect strict depth query) :
    IsWritten dialect strict depth least (.query query) := by
  obtain ⟨inner, spells, parted⟩ := written
  refine ⟨_, spells_query told spells, fun apart => ?_⟩
  rw [cut_parens]
  exact ⟨(parted false).1, fun uncut => .query told ((parted false).2 uncut)⟩

end IsWritten

end Querent.Sql.Plain
