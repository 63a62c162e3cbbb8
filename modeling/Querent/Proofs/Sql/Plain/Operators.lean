import Querent.Proofs.Sql.Plain.Leading
import Querent.Proofs.Sql.Plain.Starting

/-!
# Operators between plain terms

An operand is followed by operators as long as these bind more tightly than a given precedence.  How
tightly the next operator binds can be told from the next token alone, since none of the operators
of plain terms is spelled by several words.
-/

namespace Querent.Sql.Plain

open Querent.Sql.Parser

variable {grammar : Grammar} {interval : Parser Expr} {context : Context} {position : Position}
  {tokens rest : List Located}

/--
How tightly a token binds at most as the start of an operator.  A negation belongs to the words
behind it, of which none binds more tightly than those for ranges and lists.
-/
def binding : Option Token → Nat
  | some (.symbol mark) => precedenceOfSymbol mark
  | some (.word ⟨_, _, some "NOT"⟩) => rangePrecedence
  | some (.word ⟨_, _, some word⟩) => precedenceOfKeyword word none none
  | _ => 0

theorem precedenceOfKeyword_not_le (second third : Option Keyword) :
    precedenceOfKeyword "NOT" second third ≤ rangePrecedence := by
  unfold precedenceOfKeyword
  split
  case h_5 =>
    split
    all_goals decide
  all_goals simp_all

theorem precedenceOfKeyword_of_ne {word : Keyword} (notAt : word ≠ "AT") (notNot : word ≠ "NOT")
    (second third : Option Keyword) :
    precedenceOfKeyword word second third = precedenceOfKeyword word none none := by
  unfold precedenceOfKeyword
  split
  case h_4 => exact absurd rfl notAt
  case h_5 => exact absurd rfl notNot
  all_goals rfl

/-- The next operator binds no more tightly than the next token tells. -/
theorem nextPrecedence_of_ahead (ahead : Ahead followers tokens) :
    ∃ found ≤ binding (tokenOf tokens.head?),
      nextPrecedence context tokens = .ok (found, tokens) := by
  have notAt : ∀ head ∈ followers, head.any (·.isKeyword "AT") = false := by decide
  replace notAt := notAt _ ahead
  rw [nextPrecedence, bind_of_ok peek_eq]
  cases tokens with
  | nil => exact ⟨_, Nat.le_refl _, rfl⟩
  | cons located rest =>
      obtain ⟨token, position⟩ := located
      cases token with
      | word word =>
          obtain ⟨text, quote, keyword⟩ := word
          cases keyword with
          | none => exact ⟨_, Nat.le_refl _, rfl⟩
          | some word =>
              have different : word ≠ "AT" := by
                rintro rfl
                simp [tokenOf, Token.isKeyword, Token.keyword?] at notAt
              refine ⟨_, ?_, rfl⟩
              by_cases negation : word = "NOT"
              · subst negation
                exact precedenceOfKeyword_not_le _ _
              · rw [precedenceOfKeyword_of_ne different negation]
                unfold binding
                simp [tokenOf]
      | _ => exact ⟨_, Nat.le_refl _, rfl⟩

/-- Operators that bind too loosely are left for later. -/
theorem operatorsUpTo_of_le {least : Nat} (ahead : Ahead followers tokens)
    (loose : binding (tokenOf tokens.head?) ≤ least) (steps : Nat) (left : Expr) :
    operatorsUpTo grammar interval nextPrecedence least steps left context tokens
      = .ok (left, tokens) := by
  cases steps with
  | zero => rfl
  | succ steps =>
      obtain ⟨found, bound, read⟩ := @nextPrecedence_of_ahead context tokens ahead
      rw [operatorsUpTo, bind_of_ok read]
      simp only [ge_iff_le, bound.trans loose, if_true]
      rfl

/-! ## One operator -/

/-- What only some dialects know is not read where it is not next. -/
theorem dialectIn_and_of_false {dialects : List Dialect} {parser : Parser Bool}
    (absent : parser context tokens = .ok (false, tokens)) :
    (dialectIn dialects <&&> parser) context tokens = .ok (false, tokens) := by
  have asked : dialectIn dialects context tokens
      = .ok (dialects.contains context.dialect, tokens) := rfl
  rw [andM, bind_of_ok asked]
  cases dialects.contains context.dialect with
  | true => exact absent
  | false => rfl

theorem dialectIn_and_keyword_of_ne {dialects : List Dialect} {word : Keyword}
    (other : (tokenOf tokens.head?).any (·.isKeyword word) = false) :
    (dialectIn dialects <&&> keyword word) context tokens = .ok (false, tokens) :=
  dialectIn_and_of_false (keyword_of_ne other)

theorem binaryOperator_eq {operator : BinaryOperator} (known : operator ∈ operators) :
    binaryOperator (operatorToken operator) context tokens = .ok (some operator, tokens) := by
  simp only [operators, List.mem_cons, List.not_mem_nil, or_false] at known
  rcases known with rfl | rfl | rfl | rfl | rfl | rfl | rfl | rfl | rfl | rfl | rfl | rfl | rfl |
    rfl | rfl | rfl | rfl | rfl | rfl | rfl | rfl | rfl | rfl <;> rfl

theorem binaryRest_of_starts {left : Expr} {operator : BinaryOperator} {found : Located}
    {precedence : Nat} (starts : StartsTerm (tokenOf tokens.head?)) :
    binaryRest grammar left operator found precedence context tokens
      = (grammar.operand precedence >>= fun right => pure (.binary left operator right))
        context tokens := by
  have noQuantifier : ∀ word ∈ ["ANY", "ALL"],
      (tokenOf tokens.head?).any (·.isKeyword word) = false := by
    intro word member
    have special : word ∈ reserved ∧ word ∉ termWords := by
      revert word
      decide
    exact starts.isKeyword_eq_false special.1 special.2
  rw [binaryRest, bind_of_ok (oneOf_of_ne noQuantifier)]

theorem followingRule_of_operator {operator : BinaryOperator} {left : Expr} {precedence : Nat}
    (known : operator ∈ operators) (starts : StartsTerm (tokenOf tokens.head?)) :
    followingRule grammar interval left precedence context
        (⟨operatorToken operator, position⟩ :: tokens)
      = (grammar.operand precedence >>= fun right => pure (.binary left operator right))
        context tokens := by
  have noDivision : ∀ operator ∈ operators,
      (some (operatorToken operator)).any (·.isKeyword "DIV") = false := by decide
  rw [followingRule, bind_of_ok (dialectIn_and_keyword_of_ne (by simpa using noDivision _ known))]
  simp only [Bool.false_eq_true, if_false]
  rw [bind_of_ok get_eq, bind_of_ok next_eq]
  simp only [List.head?_cons, List.tail_cons]
  rw [bind_of_ok (binaryOperator_eq known)]
  exact binaryRest_of_starts starts

/-! ## Tests and comparisons -/

theorem followingRule_of_test {operand : Expr} {precedence : Nat} :
    followingRule grammar interval operand precedence context
        (⟨keywordToken "IS", position⟩ :: tokens) = isRest grammar operand context tokens := by
  rw [followingRule, bind_of_ok (dialectIn_and_keyword_of_ne rfl)]
  rfl

theorem followingRule_of_comparison {word : Keyword} {operand : Expr} {precedence : Nat}
    (known : word ∈ ["NOT", "IN", "BETWEEN", "LIKE", "ILIKE", "SIMILAR", "REGEXP", "RLIKE"]) :
    followingRule grammar interval operand precedence context
        (⟨keywordToken word, position⟩ :: tokens)
      = comparisonRest grammar operand context (⟨keywordToken word, position⟩ :: tokens) := by
  simp only [List.mem_cons, List.not_mem_nil, or_false] at known
  rcases known with rfl | rfl | rfl | rfl | rfl | rfl | rfl | rfl
  all_goals
    rw [followingRule, bind_of_ok (dialectIn_and_keyword_of_ne rfl)]
    rfl

/-- The words for a comparison with a pattern. -/
def matchWords : Match → List Keyword
  | .like => ["LIKE"]
  | .ilike => ["ILIKE"]
  | .similar => ["SIMILAR", "TO"]
  | .regexp => ["REGEXP"]
  | .rlike => ["RLIKE"]

/-- Some words, which a negation may stand before. -/
def negatable (negated : Bool) (words : List Keyword) : List Keyword :=
  if negated then "NOT" :: words else words

section Comparison

variable {operand : Expr} {negated : Bool} {located : List Located}

/-- Words that a negation may stand before are spelled with or without it. -/
theorem exists_of_map_eq_negatable {words : List Keyword}
    (spelled : located.map (·.token) = (negatable negated words).map keywordToken) :
    ∃ before behind, located = before ++ behind ∧ behind.map (·.token) = words.map keywordToken ∧
      (negated = false ∧ before = [] ∨
        negated = true ∧ ∃ position, before = [⟨keywordToken "NOT", position⟩]) := by
  cases negated with
  | false => exact ⟨[], located, rfl, spelled, .inl ⟨rfl, rfl⟩⟩
  | true =>
      obtain ⟨position, behind, rfl, others⟩ := exists_of_map_eq_cons spelled
      exact ⟨[_], behind, rfl, others, .inr ⟨rfl, position, rfl⟩⟩

theorem followingRule_of_negatable {word : Keyword} {words : List Keyword} {precedence : Nat}
    (known : word ∈ ["IN", "BETWEEN", "LIKE", "ILIKE", "SIMILAR", "REGEXP", "RLIKE"])
    (spelled : located.map (·.token) = (negatable negated (word :: words)).map keywordToken) :
    followingRule grammar interval operand precedence context (located ++ tokens)
      = comparisonRest grammar operand context (located ++ tokens) := by
  obtain ⟨_, _, rfl, same, ⟨_, rfl⟩ | ⟨_, before, rfl⟩⟩ := exists_of_map_eq_negatable spelled
  · obtain ⟨position, later, rfl, _⟩ := exists_of_map_eq_cons same
    exact followingRule_of_comparison (List.mem_cons_of_mem _ known)
  · exact followingRule_of_comparison List.mem_cons_self

/-- The word for what a value is tested for. -/
def testWord : Test → Keyword
  | .isNull => "NULL"
  | .isTrue => "TRUE"
  | .isFalse => "FALSE"
  | .isUnknown => "UNKNOWN"

theorem isRest_of_words {property : Test}
    (spelled : located.map (·.token) = (negatable negated [testWord property]).map keywordToken) :
    isRest grammar operand context (located ++ tokens)
      = .ok (.test operand negated property, tokens) := by
  obtain ⟨_, _, rfl, word, ⟨rfl, rfl⟩ | ⟨rfl, before, rfl⟩⟩ := exists_of_map_eq_negatable spelled
  all_goals
    obtain ⟨position, rfl⟩ := exists_of_map_eq_singleton word
    cases property <;> rfl

theorem comparisonRest_of_in
    (spelled : located.map (·.token) = (negatable negated ["IN"]).map keywordToken) :
    comparisonRest grammar operand context (located ++ tokens)
      = inRest grammar operand negated context tokens := by
  obtain ⟨_, _, rfl, word, ⟨rfl, rfl⟩ | ⟨rfl, before, rfl⟩⟩ := exists_of_map_eq_negatable spelled
  all_goals
    obtain ⟨position, rfl⟩ := exists_of_map_eq_singleton word
    rfl

/-- What is read of a range after its keywords. -/
def rangeRest (grammar : Grammar) (operand : Expr) (negated : Bool) : Parser Expr := do
  let low ← grammar.operand rangePrecedence
  expectKeyword "AND"
  return .between operand negated low (← grammar.operand rangePrecedence)

theorem comparisonRest_of_between
    (spelled : located.map (·.token) = (negatable negated ["BETWEEN"]).map keywordToken) :
    comparisonRest grammar operand context (located ++ tokens)
      = rangeRest grammar operand negated context tokens := by
  obtain ⟨_, _, rfl, word, ⟨rfl, rfl⟩ | ⟨rfl, before, rfl⟩⟩ := exists_of_map_eq_negatable spelled
  all_goals
    obtain ⟨position, rfl⟩ := exists_of_map_eq_singleton word
    rfl

theorem comparisonRest_of_match {kind : Match}
    (spelled : located.map (·.token) = (negatable negated (matchWords kind)).map keywordToken) :
    comparisonRest grammar operand context (located ++ tokens)
      = matchingRest grammar operand negated kind context tokens := by
  obtain ⟨_, _, rfl, words, ⟨rfl, rfl⟩ | ⟨rfl, before, rfl⟩⟩ := exists_of_map_eq_negatable spelled
  all_goals
    cases kind with
    | similar =>
        obtain ⟨first, _, rfl, others⟩ := exists_of_map_eq_cons words
        obtain ⟨position, rfl⟩ := exists_of_map_eq_singleton others
        rfl
    | _ =>
        obtain ⟨position, rfl⟩ := exists_of_map_eq_singleton words
        rfl

/-! ## How tightly they bind -/

theorem nextPrecedence_of_operator {operator : BinaryOperator} (known : operator ∈ operators) :
    nextPrecedence context (⟨operatorToken operator, position⟩ :: tokens)
      = .ok (precedenceOf operator, ⟨operatorToken operator, position⟩ :: tokens) := by
  simp only [operators, List.mem_cons, List.not_mem_nil, or_false] at known
  rcases known with rfl | rfl | rfl | rfl | rfl | rfl | rfl | rfl | rfl | rfl | rfl | rfl | rfl |
    rfl | rfl | rfl | rfl | rfl | rfl | rfl | rfl | rfl | rfl <;> rfl

theorem nextPrecedence_of_test :
    nextPrecedence context (⟨keywordToken "IS", position⟩ :: tokens)
      = .ok (testPrecedence, ⟨keywordToken "IS", position⟩ :: tokens) := rfl

theorem nextPrecedence_of_range {word : Keyword} (known : word ∈ ["IN", "BETWEEN"])
    (spelled : located.map (·.token) = (negatable negated [word]).map keywordToken) :
    nextPrecedence context (located ++ tokens) = .ok (rangePrecedence, located ++ tokens) := by
  simp only [List.mem_cons, List.not_mem_nil, or_false] at known
  obtain ⟨_, _, rfl, words, ⟨rfl, rfl⟩ | ⟨rfl, before, rfl⟩⟩ := exists_of_map_eq_negatable spelled
  all_goals
    obtain ⟨position, rfl⟩ := exists_of_map_eq_singleton words
    rcases known with rfl | rfl <;> rfl

theorem nextPrecedence_of_match {kind : Match}
    (spelled : located.map (·.token) = (negatable negated (matchWords kind)).map keywordToken) :
    nextPrecedence context (located ++ tokens) = .ok (patternPrecedence, located ++ tokens) := by
  obtain ⟨_, _, rfl, words, ⟨rfl, rfl⟩ | ⟨rfl, before, rfl⟩⟩ := exists_of_map_eq_negatable spelled
  all_goals
    cases kind with
    | similar =>
        obtain ⟨first, _, rfl, others⟩ := exists_of_map_eq_cons words
        obtain ⟨position, rfl⟩ := exists_of_map_eq_singleton others
        rfl
    | _ =>
        obtain ⟨position, rfl⟩ := exists_of_map_eq_singleton words
        rfl

end Comparison

end Querent.Sql.Plain
