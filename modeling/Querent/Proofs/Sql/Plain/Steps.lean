import Querent.Proofs.Sql.Plain.Trees

/-!
# Steps of a parser on plain tokens

How parsers go on at the tokens of a canonical text.  What stands next is known up to a list of
possible *heads*, and most questions that a parser asks of the next token have the same answer for
all of them.
-/

namespace Querent.Sql.Plain

open Querent.Sql.Parser

/-! ## Sequences -/

section Sequences

variable {α β : Type} {first : Parser α} {next : α → Parser β} {context : Context}
  {tokens rest : List Located} {value : α}

/-- A parser goes on where its first part has left off. -/
theorem bind_of_ok (read : first context tokens = .ok (value, rest)) :
    (first >>= next) context tokens = next value context rest := by
  show (first context tokens >>= fun result => next result.1 context result.2) = _
  rw [read]
  rfl

/-- A parser fails where its first part fails. -/
theorem bind_of_error {error : SyntaxError} (failed : first context tokens = .error error) :
    (first >>= next) context tokens = .error error := by
  show (first context tokens >>= fun result => next result.1 context result.2) = _
  rw [failed]
  rfl

end Sequences

/-! ## Heads -/

/-- The words of canonical text that may follow a term. -/
def clauseWords : List Keyword :=
  ["FROM", "WHERE", "GROUP", "HAVING", "ORDER", "LIMIT", "OFFSET", "UNION", "EXCEPT", "INTERSECT",
    "JOIN", "LEFT", "RIGHT", "FULL", "CROSS", "OUTER", "NATURAL", "ON", "USING", "AS", "ASC",
    "DESC", "NULLS", "ROW", "ROWS", "WHEN", "THEN", "ELSE", "END"]

/-- What may follow a complete term, nothing being the end of the text. -/
def closers : List (Option Token) :=
  [none, some (.symbol .comma), some (.symbol .semicolon), some (.symbol .closeParen)] ++
    clauseWords.map (some ∘ keywordToken)

/-- The words that a test or a comparison may start with behind its operand. -/
def comparisonWords : List Keyword :=
  ["IS", "NOT", "IN", "BETWEEN", "LIKE", "ILIKE", "SIMILAR", "REGEXP", "RLIKE"]

/-- What may follow an operand. -/
def followers : List (Option Token) :=
  closers ++ operators.map (some ∘ operatorToken) ++ comparisonWords.map (some ∘ keywordToken)

/-- Whether the next token is one of some heads. -/
def Ahead (heads : List (Option Token)) (tokens : List Located) : Prop :=
  tokenOf tokens.head? ∈ heads

/-- Whether all tokens are tame. -/
def Tame (tokens : List Located) : Prop :=
  ∀ located ∈ tokens, IsTame located.token

theorem exists_of_map_eq_cons {located : List Located} {first : Token} {others : List Token}
    (same : located.map (·.token) = first :: others) :
    ∃ position later, located = ⟨first, position⟩ :: later ∧ later.map (·.token) = others := by
  rw [List.map_eq_cons_iff] at same
  obtain ⟨⟨token, position⟩, later, rfl, rfl, same⟩ := same
  exact ⟨position, later, rfl, same⟩

theorem exists_of_map_eq_singleton {token : Token} {located : List Located}
    (spelled : located.map (·.token) = [token]) : ∃ position, located = [⟨token, position⟩] := by
  obtain ⟨position, later, rfl, nothing⟩ := exists_of_map_eq_cons spelled
  cases List.map_eq_nil_iff.1 nothing
  exact ⟨position, rfl⟩

theorem Tame.tail {located : Located} {rest : List Located} (tame : Tame (located :: rest)) :
    Tame rest :=
  fun found member => tame found (List.mem_cons_of_mem located member)

theorem Tame.behind {before behind : List Located} (tame : Tame (before ++ behind)) :
    Tame behind :=
  fun located member => tame located (List.mem_append_right before member)

variable {context : Context} {tokens rest : List Located} {located : Located}
  {heads : List (Option Token)}

@[simp]
theorem tokenOf_some (located : Located) : tokenOf (some located) = some located.token := rfl

theorem bind_keyword?_head? (tokens : List Located) :
    (tokens.head?).bind (·.token.keyword?) = (tokenOf tokens.head?).bind Token.keyword? := by
  cases tokens with
  | nil => rfl
  | cons located rest => rfl

theorem Ahead.ne (ahead : Ahead heads tokens) {head : Option Token} (absent : head ∉ heads) :
    tokenOf tokens.head? ≠ head := by
  rintro rfl
  exact absent ahead

theorem peek_eq : peek context tokens = .ok (tokens.head?, tokens) := rfl

theorem next_eq : next context tokens = .ok (tokens.head?, tokens.tail) := rfl

theorem get_eq : (get : Parser (List Located)) context tokens = .ok (tokens, tokens) := rfl

theorem set_eq {later : List Located} :
    (set later : Parser PUnit) context tokens = .ok (⟨⟩, later) := rfl

theorem dialect_eq : dialect context tokens = .ok (context.dialect, tokens) := rfl

theorem keyword_of_ne {word : Keyword}
    (other : (tokenOf tokens.head?).any (·.isKeyword word) = false) :
    keyword word context tokens = .ok (false, tokens) := by
  cases tokens with
  | nil => rfl
  | cons located rest =>
      have differs : located.token.isKeyword word = false := other
      rw [keyword, bind_of_ok get_eq]
      simp only [differs, Bool.false_eq_true, if_false]
      rfl

theorem keyword_of_ahead {word : Keyword} (ahead : Ahead heads tokens)
    (others : ∀ head ∈ heads, head.any (·.isKeyword word) = false) :
    keyword word context tokens = .ok (false, tokens) :=
  keyword_of_ne (others _ ahead)

theorem keyword_of_eq {word : Keyword} (same : located.token.isKeyword word = true) :
    keyword word context (located :: rest) = .ok (true, rest) := by
  rw [keyword, bind_of_ok get_eq]
  simp only [same, if_true]
  rfl

theorem atKeyword_of_ne {word : Keyword}
    (other : (tokenOf tokens.head?).any (·.isKeyword word) = false) :
    atKeyword word context tokens = .ok (false, tokens) := by
  cases tokens with
  | nil => rfl
  | cons located rest =>
      have differs : located.token.isKeyword word = false := other
      show Except.ok ((Option.map _ (some located)).getD false, _) = _
      rw [Option.map_some, Option.getD_some, differs]

theorem atKeyword_of_eq {word : Keyword}
    (spells : (tokenOf tokens.head?).any (·.isKeyword word) = true) :
    atKeyword word context tokens = .ok (true, tokens) := by
  cases tokens with
  | nil => cases spells
  | cons located rest =>
      have same : located.token.isKeyword word = true := spells
      show Except.ok ((Option.map _ (some located)).getD false, _) = _
      rw [Option.map_some, Option.getD_some, same]

theorem keywords_of_ne {word : Keyword} {words : List Keyword}
    (other : (tokenOf tokens.head?).any (·.isKeyword word) = false) :
    keywords (word :: words) context tokens = .ok (false, tokens) := by
  cases tokens with
  | nil => rfl
  | cons located rest =>
      have differs : located.token.isKeyword word = false := other
      have absent : afterKeywords (word :: words) (located :: rest) = none := by
        rw [afterKeywords, differs, if_neg Bool.false_ne_true]
      rw [keywords, bind_of_ok get_eq, absent]
      rfl

/-- A sequence of keywords is left where its second word is missing. -/
theorem keywords_of_second_ne {first second : Keyword} {words : List Keyword}
    (other : (tokenOf rest.head?).any (·.isKeyword second) = false) :
    keywords (first :: second :: words) context (located :: rest)
      = .ok (false, located :: rest) := by
  have absent : afterKeywords (first :: second :: words) (located :: rest) = none := by
    rw [afterKeywords]
    cases rest with
    | nil => exact ite_self _
    | cons next rest =>
        have differs : next.token.isKeyword second = false := other
        rw [afterKeywords, differs, if_neg Bool.false_ne_true]
        exact ite_self _
  rw [keywords, bind_of_ok get_eq, absent]
  rfl

theorem after_of_ne {α : Type} {word : Keyword} {item : Parser α}
    (other : (tokenOf tokens.head?).any (·.isKeyword word) = false) :
    after word item context tokens = .ok (none, tokens) := by
  rw [after, bind_of_ok (keyword_of_ne other)]
  rfl

theorem listAfter_of_ne {α : Type} {word : Keyword} {words : List Keyword} {items : Parser (List α)}
    (other : (tokenOf tokens.head?).any (·.isKeyword word) = false) :
    listAfter (word :: words) items context tokens = .ok ([], tokens) := by
  rw [listAfter, bind_of_ok (keywords_of_ne other)]
  rfl

theorem symbol_of_ne {mark : Symbol} (other : tokenOf tokens.head? ≠ some (.symbol mark)) :
    symbol mark context tokens = .ok (false, tokens) := by
  cases tokens with
  | nil => rfl
  | cons located rest =>
      obtain ⟨token, position⟩ := located
      cases token with
      | symbol found =>
          have differs : found ≠ mark := by
            rintro rfl
            exact other rfl
          rw [symbol, bind_of_ok get_eq]
          simp only [differs, if_false]
          rfl
      | _ => rfl

theorem symbol_of_ahead {mark : Symbol} (ahead : Ahead heads tokens)
    (others : some (.symbol mark) ∉ heads) :
    symbol mark context tokens = .ok (false, tokens) :=
  symbol_of_ne (ahead.ne others)

theorem symbol_of_eq {mark : Symbol} {position : Position} :
    symbol mark context (⟨.symbol mark, position⟩ :: rest) = .ok (true, rest) := by
  rw [symbol, bind_of_ok get_eq]
  simp only [if_true]
  rfl

theorem oneOf_of_ne {words : List Keyword}
    (others : ∀ word ∈ words, (tokenOf tokens.head?).any (·.isKeyword word) = false) :
    oneOf words context tokens = .ok (none, tokens) := by
  rw [oneOf, bind_of_ok peek_eq]
  cases tokens with
  | nil => rfl
  | cons located rest =>
      simp only [List.head?_cons, Option.bind_some]
      cases known : located.token.keyword? with
      | none => rfl
      | some word =>
          have absent : words.contains word = false := by
            rw [Bool.eq_false_iff]
            intro member
            have other := others word (List.contains_iff_mem.1 member)
            simp [tokenOf, Token.isKeyword, known] at other
          simp only [absent]
          rfl

end Querent.Sql.Plain
