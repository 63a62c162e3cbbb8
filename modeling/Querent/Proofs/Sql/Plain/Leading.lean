import Querent.Proofs.Sql.Plain.Known
import Querent.Proofs.Sql.Ensures
import Querent.Sql.Grammar.Statement

/-!
# What starts a plain term

Every expression is first tried as a text with the name of its type before it.  A word that names no
type starts a type of its own name, which no text may follow, and no text follows a name that is the
name of a type as well; so the trial fails at plain terms, and their first token decides what is
read.
-/

namespace Querent.Sql.Plain

open Querent.Sql.Parser

/-! ## The trial of a typed text -/

theorem head_ne_of_forall {tokens : List Located} {token : Token}
    (absent : ∀ located ∈ tokens, located.token ≠ token) : tokenOf tokens.head? ≠ some token := by
  cases tokens with
  | nil => simp [tokenOf]
  | cons located rest =>
      have differs := absent located List.mem_cons_self
      simpa [tokenOf] using differs

/-- Whether a parser leaves an end of the tokens wherever it succeeds. -/
def Leaves {α : Type} (parser : Parser α) : Prop :=
  ∀ context tokens value rest, parser context tokens = .ok (value, rest) → rest <:+ tokens

namespace Leaves

variable {α β : Type}

theorem pure {value : α} : Leaves (Pure.pure value) := by
  rintro context tokens _ _ ⟨⟩
  exact List.suffix_rfl

theorem throw {error : SyntaxError} : Leaves (throw error : Parser α) := by
  rintro context tokens _ _ ⟨⟩

theorem step {first : Parser α} {next : α → Parser β} (leaves : Leaves first)
    (later : ∀ value, Leaves (next value)) : Leaves (first >>= next) := by
  intro context tokens value rest read
  obtain ⟨found, behind, readFirst, readNext⟩ := bind_eq_ok.1 read
  exact (later found _ _ _ _ readNext).trans (leaves _ _ _ _ readFirst)

end Leaves

theorem leaves_next : Leaves next := by
  rintro context tokens _ _ ⟨⟩
  exact List.tail_suffix _

theorem leaves_symbol (mark : Symbol) : Leaves (symbol mark) := by
  intro context tokens found rest read
  by_cases same : tokenOf tokens.head? = some (.symbol mark)
  · cases tokens with
    | nil => cases same
    | cons located later =>
        obtain ⟨token, position⟩ := located
        cases same
        rw [symbol_of_eq] at read
        cases read
        exact List.suffix_cons _ _
  · rw [symbol_of_ne same] at read
    cases read
    exact List.suffix_rfl

theorem leaves_ident : Leaves ident := by
  refine .step leaves_next fun found => ?_
  split
  iterate 3 exact .pure
  exact .throw

theorem leaves_qualifiedNameUpTo (bound : Nat) : Leaves (qualifiedNameUpTo bound) := by
  induction bound with
  | zero => exact .pure
  | succ bound ih =>
      refine .step leaves_ident fun first => .step (leaves_symbol .period) fun found => ?_
      split
      · exact .step ih fun others => .pure
      · exact .pure

theorem leaves_modifiersUpTo (bound : Nat) : Leaves (modifiersUpTo bound) := by
  induction bound with
  | zero => exact .pure
  | succ bound ih =>
      refine .step leaves_next fun found => ?_
      split
      iterate 3 exact .step ih fun others => .pure
      · exact ih
      · exact .pure
      · exact .throw

theorem leaves_optionalModifiers : Leaves optionalModifiers := by
  refine .step (leaves_symbol .openParen) fun opened => ?_
  split
  · intro context tokens modifiers rest read
    rw [bind_of_ok get_eq] at read
    exact leaves_modifiersUpTo _ _ _ _ _ read
  · exact .pure

theorem leaves_qualifiedName : Leaves qualifiedName := by
  intro context tokens name rest read
  rw [qualifiedName, bind_of_ok get_eq] at read
  exact leaves_qualifiedNameUpTo _ _ _ _ _ read

/-- A word that names no type is no known type. -/
theorem knownType_of_free {word : Keyword} (free : word ∉ typeWords) {context : Context}
    {tokens : List Located} : knownType word context tokens = .ok (none, tokens) := by
  unfold typeWords at free
  simp only [List.mem_append, not_or] at free
  obtain ⟨⟨⟨⟨notPlain, notSized⟩, notInteger⟩, notDecimal⟩, others⟩ := free
  have absent {words : List Keyword} (other : word ∉ words) : words.contains word = false := by
    simpa using other
  unfold knownType
  simp only [absent notPlain, absent notSized, absent notInteger, absent notDecimal,
    Bool.false_eq_true, if_false]
  split
  iterate 10 exact absurd (by decide) others
  rfl

/-- A type whose first word names no type goes by this word as its own name. -/
theorem custom_of_typeRule {grammar : Grammar} {context : Context} {word : Word}
    {position : Position} {tokens rest : List Located} {type : DataType} {closed : Bool}
    (free : ∀ known ∈ typeWords, word.keyword ≠ some known) (tame : Tame tokens)
    (read : typeRule grammar context (⟨.word word, position⟩ :: tokens)
      = .ok ((type, closed), rest)) :
    closed = false ∧ ∃ name modifiers, type = .custom name modifiers := by
  rw [typeRule, bind_of_ok get_eq, bind_of_ok next_eq] at read
  simp only [List.head?_cons, List.tail_cons, tokenOf, Option.map_some] at read
  -- Either way the word is read again as the name of a type of its own.
  have named : ∃ name modifiers behind after, qualifiedName context
        (⟨.word word, position⟩ :: tokens) = .ok (name, behind) ∧
      optionalModifiers context behind = .ok (modifiers, after) ∧
      (arraySuffixUpTo (after.length + 1) (.custom name modifiers) >>= fun type =>
        pure (type, false)) context after = .ok ((type, closed), rest) := by
    cases spelled : word.keyword with
    | none =>
        simp only [spelled, pure_bind] at read
        rw [bind_of_ok set_eq] at read
        obtain ⟨name, behind, readName, later⟩ := bind_eq_ok.1 read
        obtain ⟨modifiers, after, readModifiers, last⟩ := bind_eq_ok.1 later
        exact ⟨name, modifiers, behind, after, readName, readModifiers, last⟩
    | some found =>
        have notArray : found ≠ "ARRAY" := by
          rintro rfl
          exact free "ARRAY" (by decide) spelled
        simp only [spelled] at read
        rw [bind_of_ok (knownType_of_free fun member => free found member spelled)] at read
        simp only [pure_bind, Option.some.injEq, notArray, imp_false, not_false_eq_true]
          at read
        rw [bind_of_ok set_eq] at read
        obtain ⟨name, behind, readName, later⟩ := bind_eq_ok.1 read
        obtain ⟨modifiers, after, readModifiers, last⟩ := bind_eq_ok.1 later
        exact ⟨name, modifiers, behind, after, readName, readModifiers, last⟩
  obtain ⟨name, modifiers, behind, after, readName, readModifiers, last⟩ := named
  have suffix := (leaves_optionalModifiers _ _ _ _ readModifiers).trans
    (leaves_qualifiedName _ _ _ _ readName)
  have noBracket : tokenOf after.head? ≠ some (.symbol .openBracket) := by
    have whole : ∀ located ∈ ⟨.word word, position⟩ :: tokens,
        located.token ≠ .symbol .openBracket :=
      List.forall_mem_cons.2 ⟨by simp, fun located member => (tame located member).ne_openBracket⟩
    exact head_ne_of_forall fun located member => whole located (suffix.mem member)
  have noSuffix : arraySuffixUpTo (after.length + 1) (.custom name modifiers) context after
      = .ok (.custom name modifiers, after) := by
    rw [arraySuffixUpTo, bind_of_ok (symbol_of_ne noBracket)]
    rfl
  rw [bind_of_ok noSuffix] at last
  cases last
  exact ⟨rfl, name, modifiers, rfl⟩

/-- No text with the name of its type starts with a word that names no type. -/
theorem typedText_of_word {depth : Nat} {interval : Parser Expr} {context : Context} {word : Word}
    {position : Position} {tokens : List Located}
    (free : ∀ known ∈ typeWords, word.keyword ≠ some known) (tame : Tame tokens) :
    ∃ error, typedText (grammarOfDepth depth) interval context (⟨.word word, position⟩ :: tokens)
      = .error error := by
  cases result : typedText (grammarOfDepth depth) interval context
    (⟨.word word, position⟩ :: tokens) with
  | error error => exact ⟨error, rfl⟩
  | ok outcome =>
      exfalso
      obtain ⟨value, left⟩ := outcome
      obtain ⟨type, behind, typed, later⟩ := bind_eq_ok.1 result
      obtain ⟨⟨found, closed⟩, after, ruled, same⟩ := bind_eq_ok.1 typed
      cases depth with
      | zero => cases ruled
      | succ depth =>
          obtain ⟨rfl, name, modifiers, rfl⟩ := custom_of_typeRule free tame ruled
          cases same
          cases later

/-- Whether a text may end with a token, where the name of its type stands before it. -/
def isTextual : Option Token → Bool
  | some (.word ⟨_, _, none⟩) => true
  | some (.quoted _ _) => true
  | _ => false

theorem literalText_of_not_textual {context : Context} {tokens : List Located}
    (plain : isTextual (tokenOf tokens.head?) = false) :
    ∃ error, literalText context tokens = .error error := by
  rw [literalText, bind_of_ok next_eq, bind_of_ok dialect_eq]
  generalize tokenOf tokens.head? = head at plain
  split
  · cases plain
  · cases plain
  · cases plain
  · cases plain
  · exact ⟨_, rfl⟩

/-- No text with the name of its type starts with this name where no text follows it. -/
theorem typedText_of_type {depth : Nat} {interval : Parser Expr} {context : Context} {word : Word}
    {position : Position} {tokens : List Located} {known : Keyword}
    (spelled : word.keyword = some known)
    (read : (∃ type, takesText type = true ∧
        knownType known context tokens = .ok (some type, tokens)) ∨
      ∃ error, knownType known context tokens = .error error)
    (noBracket : tokenOf tokens.head? ≠ some (.symbol .openBracket))
    (plain : isTextual (tokenOf tokens.head?) = false) :
    ∃ error, typedText (grammarOfDepth depth) interval context (⟨.word word, position⟩ :: tokens)
      = .error error := by
  cases depth with
  | zero => exact ⟨_, rfl⟩
  | succ depth =>
      rcases read with ⟨type, takes, read⟩ | ⟨error, failed⟩
      · obtain ⟨error, failed⟩ := @literalText_of_not_textual context tokens plain
        have ruled : (grammarOfDepth (depth + 1)).type context (⟨.word word, position⟩ :: tokens)
            = .ok ((type, false), tokens) := typeRule_of_known spelled read noBracket
        have typed : dataType (grammarOfDepth (depth + 1)) context
            (⟨.word word, position⟩ :: tokens) = .ok (type, tokens) := bind_of_ok ruled
        rw [typedText, bind_of_ok typed]
        split
        · cases takes
        · cases takes
        · exact ⟨error, bind_of_error failed⟩
      · refine ⟨error, bind_of_error (bind_of_error ?_)⟩
        show typeRule (grammarOfDepth depth) context (⟨.word word, position⟩ :: tokens) = _
        rw [typeRule, bind_of_ok get_eq, bind_of_ok next_eq]
        simp only [List.head?_cons, List.tail_cons, tokenOf_some, spelled]
        exact bind_of_error failed

theorem typedText_of_not_word {depth : Nat} {interval : Parser Expr} {context : Context}
    {token : Token} {position : Position} {tokens : List Located}
    (notWord : ∀ word, token ≠ .word word) :
    ∃ error, typedText (grammarOfDepth depth) interval context (⟨token, position⟩ :: tokens)
      = .error error := by
  cases depth with
  | zero => exact ⟨_, rfl⟩
  | succ depth =>
      cases token with
      | word word => exact absurd rfl (notWord word)
      | _ => exact ⟨_, rfl⟩

theorem attempt_of_error {α : Type} {parser : Parser α} {context : Context} {tokens : List Located}
    (failed : ∃ error, parser context tokens = .error error) :
    attempt parser context tokens = .ok (none, tokens) := by
  obtain ⟨error, same⟩ := failed
  simp only [attempt, same]

/-! ## The first token -/

/-- An expression under a collation, if one is named next. -/
def collated (expr : Expr) : Parser Expr := do
  if ← keyword "COLLATE" then return .collate expr (← qualifiedName) else return expr

theorem collated_of_ne {context : Context} {tokens : List Located} {expr : Expr}
    (other : (tokenOf tokens.head?).any (·.isKeyword "COLLATE") = false) :
    collated expr context tokens = .ok (expr, tokens) := by
  rw [collated, bind_of_ok (keyword_of_ne other)]
  rfl

section Leading

variable {depth : Nat} {interval : Parser Expr} {context : Context} {position : Position}
  {tokens : List Located}

theorem leadingWith_word {word : Word}
    (failed : ∃ error, typedText (grammarOfDepth depth) interval context
      (⟨.word word, position⟩ :: tokens) = .error error) :
    leadingWith (grammarOfDepth depth) interval context (⟨.word word, position⟩ :: tokens)
      = (wordRule (grammarOfDepth depth) interval word (⟨.word word, position⟩ :: tokens) >>=
        collated) context tokens := by
  rw [leadingWith, bind_of_ok (attempt_of_error failed)]
  simp only
  rw [bind_of_ok get_eq, bind_of_ok next_eq]
  rfl

/-- The trial of a typed text fails at every other token. -/
theorem attempt_typedText {token : Token} (notWord : ∀ word, token ≠ .word word) :
    attempt (typedText (grammarOfDepth depth) interval) context (⟨token, position⟩ :: tokens)
      = .ok (none, ⟨token, position⟩ :: tokens) :=
  attempt_of_error (typedText_of_not_word notWord)

theorem leadingWith_symbol {mark : Symbol} :
    leadingWith (grammarOfDepth depth) interval context (⟨.symbol mark, position⟩ :: tokens)
      = (symbolRule (grammarOfDepth depth) mark (some ⟨.symbol mark, position⟩)
        (⟨.symbol mark, position⟩ :: tokens) >>= collated) context tokens := by
  rw [leadingWith, bind_of_ok (attempt_typedText (by simp))]
  simp only
  rw [bind_of_ok get_eq, bind_of_ok next_eq]
  rfl

theorem leadingWith_number {digits : String} :
    leadingWith (grammarOfDepth depth) interval context (⟨.number digits false, position⟩ :: tokens)
      = collated (.literal (.number digits false)) context tokens := by
  rw [leadingWith, bind_of_ok (attempt_typedText (by simp))]
  simp only
  rw [bind_of_ok get_eq, bind_of_ok next_eq]
  rfl

theorem leadingWith_quotation {value : String} :
    leadingWith (grammarOfDepth depth) interval context
      (⟨.quoted .single value, position⟩ :: tokens)
      = collated (.literal (.quoted .single value)) context tokens := by
  rw [leadingWith, bind_of_ok (attempt_typedText (by simp))]
  simp only
  rw [bind_of_ok get_eq, bind_of_ok next_eq]
  rfl

end Leading

end Querent.Sql.Plain
