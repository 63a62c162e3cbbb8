import Mathlib.Data.Option.Basic
import Querent.Proofs.Sql.Grammar.Trait
import Querent.Sql.Grammar.Name

/-!
# Names, values and types have a trait

Where a closed trait holds of tokens, it holds of the names, values and types that the rules read
from them.
-/

namespace Querent.Sql.Parser

variable {dialect : Dialect} {trait : Trait} [closed : trait.Closed dialect]

/-! ## Tokens -/

theorem ensures_peek :
    Ensures dialect trait.tokens (fun found => ∀ token ∈ tokenOf found, trait.token token) peek :=
  .step .get fun _ isSafe => .pure (closed.head isSafe)

theorem ensures_next :
    Ensures dialect trait.tokens (fun found => ∀ token ∈ tokenOf found, trait.token token) next :=
  .step .get fun _ isSafe => .restore (Lasts.tail isSafe) (.pure (closed.head isSafe))

/-! ## Names -/

instance : Reads ident := by
  unfold ident
  refine @Reads.bind _ _ _ _ _ fun found => ?_
  split <;> infer_instance

theorem ensures_ident : Ensures dialect trait.tokens trait.name ident := by
  refine .step ensures_next fun found holds => ?_
  split
  next word isWord => exact .pure (closed.name_word (holds _ isWord))
  next value isQuoted =>
    exact .pure (closed.name_quoted (closed.text_quoted (holds _ isQuoted)) (.inl rfl))
  next value isQuoted =>
    exact .pure (closed.name_quoted (closed.text_quoted (holds _ isQuoted)) (.inr rfl))
  next => exact ensures_expectedAt _ _

theorem ensures_idents :
    Ensures dialect trait.tokens (fun names => ∀ name ∈ names, trait.name name)
      (commaSeparated ident) :=
  ensures_commaSeparated ensures_ident

theorem ensures_qualifiedName :
    Ensures dialect trait.tokens (fun parts => ∀ part ∈ parts, trait.name part) qualifiedName := by
  have upTo : ∀ bound, Ensures dialect trait.tokens
      (fun parts => ∀ part ∈ parts, trait.name part) (qualifiedNameUpTo bound) := by
    intro bound
    induction bound with
    | zero => exact .pure (by simp)
    | succ bound ih =>
        refine .step ensures_ident fun first holds => .skip fun period => ?_
        refine .ite (fun _ => ?_) fun _ => .pure (by simpa using holds)
        exact .step ih fun rest holdsRest => .pure (by simpa using ⟨holds, holdsRest⟩)
  exact .skip fun tokens => upTo _

theorem ensures_optionalColumns :
    Ensures dialect trait.tokens (fun columns => ∀ column ∈ columns, trait.name column)
      optionalColumns := by
  refine .skip fun opened => .ite (fun _ => ?_) fun _ => .pure (by simp)
  exact .step ensures_idents fun names holds => .skip fun _ => .pure holds

theorem ensures_columns :
    Ensures dialect trait.tokens (fun columns => ∀ column ∈ columns, trait.name column)
      columns := by
  refine .skip fun opened => .ite (fun _ => ?_) fun _ => ensures_expected _
  exact .step ensures_idents fun names holds => .skip fun _ => .pure holds

theorem ensures_optionalAlias (ending : List Keyword) :
    Ensures dialect trait.tokens (fun found => ∀ name ∈ found, trait.name name)
      (optionalAlias ending) := by
  refine .skip fun afterAs => ?_
  extract_lets named absent
  have names : ∀ name, trait.name name →
      Ensures dialect trait.tokens (fun found => ∀ name ∈ found, trait.name name) (named name) :=
    fun name holds => .skip fun _ => .pure (by simpa using holds)
  have absents : Ensures dialect trait.tokens
      (fun found => ∀ name ∈ found, trait.name name) absent :=
    .ite (fun _ => ensures_expected _) fun _ => .pure (by simp)
  clear_value named absent
  refine .step ensures_peek fun found holds => ?_
  split
  next word isWord =>
    exact .ite (fun _ => names _ (closed.name_word (holds _ isWord))) fun _ => absents
  next value isQuoted =>
    exact names _ (closed.name_quoted (closed.text_quoted (holds _ isQuoted)) (.inl rfl))
  next value isQuoted =>
    exact names _ (closed.name_quoted (closed.text_quoted (holds _ isQuoted)) (.inr rfl))
  next => exact absents

theorem ensures_optionalTableAlias :
    Ensures dialect trait.tokens (fun found => ∀ label ∈ found, trait.OfLabel label)
      optionalTableAlias := by
  refine .step (ensures_optionalAlias _) fun found holds => ?_
  split
  next name =>
    refine .step ensures_optionalColumns fun names holdsNames => .pure ?_
    rintro _ ⟨⟩
    exact ⟨holds name rfl, holdsNames⟩
  next => exact .pure (by simp)

/-! ## Values -/

instance : Reads wholeNumber := by
  unfold wholeNumber
  refine @Reads.bind _ _ _ _ _ fun found => ?_
  split <;> infer_instance

theorem ensures_literalText : Ensures dialect trait.tokens trait.text literalText := by
  refine .step ensures_next fun found holds => .skip fun dialect => ?_
  split
  next isWord => exact .pure (closed.text_word (holds _ isWord))
  next isQuoted => exact .pure (closed.text_quoted (holds _ isQuoted))
  next isQuoted => exact .pure (closed.text_quoted (holds _ isQuoted))
  next isQuoted =>
    exact .ite (fun _ => .pure (closed.text_quoted (holds _ isQuoted)))
      fun _ => ensures_expectedAt _ _
  next => exact ensures_expectedAt _ _

theorem ensures_literalChar :
    Ensures dialect trait.tokens (fun c => trait.text (String.singleton c)) literalChar := by
  refine .skip fun found => .step ensures_literalText fun text holds => ?_
  split
  next c letters =>
    refine .ite (fun _ => .pure ?_) fun _ => .throw _
    have single : text = String.singleton c := by
      rw [← String.toList_inj, letters, String.toList_singleton]
    exact single ▸ holds
  next => exact .throw _

theorem ensures_placeholderName {sign : Symbol} (signs : sign = .colon ∨ sign = .atSign) :
    Ensures dialect trait.tokens trait.literal (placeholderName sign) := by
  refine .step ensures_next fun found holds => ?_
  split
  next isWord => exact .pure (closed.literal_sign (closed.text_word (holds _ isWord)) signs)
  next isNumber => exact .pure (closed.literal_sign (closed.text_number (holds _ isNumber)) signs)
  next => exact ensures_expectedAt _ _

theorem ensures_wordValue {word : Word} (holds : trait.token (.word word))
    (found : Option Located) : Ensures dialect trait.tokens trait.literal (wordValue word found) := by
  have text := closed.text_word holds
  refine .skip fun dialect => ?_
  split
  · exact .pure closed.literal_boolean
  · exact .pure closed.literal_boolean
  · exact .pure closed.literal_null
  · exact .pure (closed.literal_text text (.inr rfl))
  · exact .pure (closed.literal_text text (.inl rfl))
  · exact ensures_expectedAt _ _
  · exact .ite (fun _ => .pure (closed.literal_bare text)) fun _ => ensures_expectedAt _ _
  · exact .ite (fun _ => .pure (closed.literal_bare text)) fun _ => ensures_expectedAt _ _

theorem ensures_literal : Ensures dialect trait.tokens trait.literal literal := by
  refine .step ensures_next fun found holds => ?_
  split
  next isWord => exact ensures_wordValue (holds _ isWord) _
  next isNumber => exact .pure (closed.literal_number (holds _ isNumber))
  next isQuoted => exact .pure (closed.literal_quoted (holds _ isQuoted))
  next isQuoted => exact .pure (closed.literal_dollarQuoted (holds _ isQuoted))
  next isPlaceholder => exact .pure (closed.literal_placeholder (holds _ isPlaceholder))
  next => exact ensures_placeholderName (.inl rfl)
  next => exact ensures_placeholderName (.inr rfl)
  next => exact ensures_expectedAt _ _

theorem ensures_numberValue : Ensures dialect trait.tokens trait.literal numberValue := by
  refine .skip fun found => .step ensures_literal fun value holds => ?_
  split
  · exact .pure holds
  · exact .pure holds
  · exact ensures_expectedAt _ _

/-! ## Types -/

instance : Reads optionalSize := by
  unfold optionalSize
  infer_instance

instance : Reads optionalPrecisionScale := by
  unfold optionalPrecisionScale
  infer_instance

theorem ensures_optionalLength :
    Ensures dialect trait.tokens (fun found => ∀ unit ∈ found.2, trait.text unit)
      optionalLength := by
  refine .skip fun opened => .ite (fun _ => .skip fun length => ?_) fun _ => .pure (by simp)
  refine .step (ensures_oneOf closed.harmless _) fun unit listed => .skip fun _ => .pure ?_
  have units : ∀ unit ∈ ["CHARACTERS", "OCTETS"], Innocent unit := by
    decide
  exact fun word isUnit => closed.text_innocent (units word (listed word isUnit).1)

instance : Reads zone := by
  unfold zone
  infer_instance

theorem ensures_memberTexts :
    Ensures dialect trait.tokens (fun values => ∀ value ∈ values, trait.text value)
      memberTexts := by
  have upTo : ∀ bound, Ensures dialect trait.tokens
      (fun values => ∀ value ∈ values, trait.text value) (memberTextsUpTo bound) := by
    intro bound
    induction bound with
    | zero => exact .pure (by simp)
    | succ bound ih =>
        refine .step ensures_next fun found holds => ?_
        split
        next value isQuoted =>
          have text := closed.text_quoted (holds _ isQuoted)
          refine .skip fun separator => ?_
          split
          · exact .step ih fun rest holdsRest => .pure (by simpa using ⟨text, holdsRest⟩)
          · exact .pure (by simpa using text)
          · exact ensures_expectedAt _ _
        next => exact ensures_expectedAt _ _
  exact .skip fun _ => .skip fun tokens => upTo _

theorem ensures_optionalModifiers :
    Ensures dialect trait.tokens (fun values => ∀ value ∈ values, trait.text value)
      optionalModifiers := by
  have upTo : ∀ bound, Ensures dialect trait.tokens
      (fun values => ∀ value ∈ values, trait.text value) (modifiersUpTo bound) := by
    intro bound
    induction bound with
    | zero => exact .pure (by simp)
    | succ bound ih =>
        have more : ∀ value, trait.text value → Ensures dialect trait.tokens
            (fun values => ∀ value ∈ values, trait.text value)
            (do return value :: (← modifiersUpTo bound)) :=
          fun value text => .step ih fun rest holdsRest => .pure (by simpa using ⟨text, holdsRest⟩)
        refine .step ensures_next fun found holds => ?_
        split
        next isWord => exact more _ (closed.text_token (holds _ isWord))
        next isNumber => exact more _ (closed.text_number (holds _ isNumber))
        next isQuoted => exact more _ (closed.text_quoted (holds _ isQuoted))
        next => exact ih
        next => exact .pure (by simp)
        next => exact ensures_expectedAt _ _
  exact .skip fun opened => .ite (fun _ => .skip fun tokens => upTo _) fun _ => .pure (by simp)

/-- The names of types are innocent. -/
theorem innocent_typeNames : ∀ name ∈ plainTypes ++ sizedTypes ++ integerTypes ++ decimalTypes,
    Innocent name := by
  decide

theorem ensures_characterType {name : String} (known : name = "CHARACTER" ∨ name = "CHAR") :
    Ensures dialect trait.tokens trait.type (characterType name) := by
  have innocent : Innocent name ∧ Innocent (name ++ " VARYING") ∧
      Innocent (name ++ " LARGE OBJECT") := by
    rcases known with rfl | rfl <;> decide
  obtain ⟨alone, varying, large⟩ := innocent
  refine .skip fun varies => .ite (fun _ => ?_) fun _ => ?_
  · exact .step ensures_optionalLength fun found units =>
      .pure (closed.type_characters (closed.text_innocent varying) units)
  refine .skip fun object => .ite (fun _ => ?_) fun _ => ?_
  · exact .skip fun size => .pure (closed.type_sized (closed.text_innocent large))
  · exact .step ensures_optionalLength fun found units =>
      .pure (closed.type_characters (closed.text_innocent alone) units)

instance (closed : Bool) : Reads (closeAngle closed) := by
  unfold closeAngle
  infer_instance

theorem ensures_knownType (word : Keyword) :
    Ensures dialect trait.tokens (fun found => ∀ type ∈ found, trait.type type)
      (knownType word) := by
  have name (listed : word ∈ plainTypes ++ sizedTypes ++ integerTypes ++ decimalTypes) :
      trait.text word :=
    closed.text_innocent (innocent_typeNames word listed)
  have found : ∀ {type : DataType}, trait.type type →
      Ensures dialect trait.tokens (fun found => ∀ type ∈ found, trait.type type)
        (pure (some type)) :=
    fun holds => .pure (by simpa using holds)
  have characters {word : String} (known : word = "CHARACTER" ∨ word = "CHAR") :
      Ensures dialect trait.tokens (fun found => ∀ type ∈ found, trait.type type)
        (some <$> characterType word) :=
    (ensures_characterType known).map fun type holds => by simpa using holds
  have temporal {name : String} (innocent : Innocent name ∧ Innocent (name ++ "TZ"))
      {precision : Option Nat} {zone : Zone} : trait.type (.temporal name precision zone) :=
    closed.type_temporal (closed.text_innocent innocent.1) (closed.text_innocent innocent.2)
  have members {name : String} (innocent : Innocent name) :
      Ensures dialect trait.tokens (fun found => ∀ type ∈ found, trait.type type)
        (do return some (.members name (← memberTexts))) :=
    .step ensures_memberTexts fun values holds =>
      found (closed.type_members (closed.text_innocent innocent) holds)
  refine .ite (fun listed => ?_) fun _ => .ite (fun listed => ?_) fun _ =>
    .ite (fun listed => ?_) fun _ => .ite (fun listed => ?_) fun _ => ?_
  · exact found (closed.type_plain (name (by simp_all)))
  · exact .skip fun size => found (closed.type_sized (name (by simp_all)))
  · refine .skip fun width => .skip fun unsigned => ?_
    exact found (closed.type_integer (name (by simp_all)))
  · exact .skip fun sizes => found (closed.type_decimal (name (by simp_all)))
  split
  · refine .skip fun precise => found (closed.type_plain (closed.text_innocent ?_))
    split <;> decide
  · exact .step ensures_optionalLength fun sizes units =>
      found (closed.type_characters (closed.text_innocent (by decide)) units)
  · exact characters (.inl rfl)
  · exact characters (.inr rfl)
  · exact .skip fun precision => .skip fun zone => found (temporal (by decide))
  · exact .skip fun precision => found (temporal (by decide))
  · exact .skip fun precision => .skip fun zone => found (temporal (by decide))
  · exact .skip fun precision => found (temporal (by decide))
  · exact members (by decide)
  · exact members (by decide)
  · exact .pure (by simp)

theorem ensures_arraySuffixUpTo (bound : Nat) {element : DataType} (holds : trait.type element) :
    Ensures dialect trait.tokens trait.type (arraySuffixUpTo bound element) := by
  induction bound generalizing element with
  | zero => exact .pure holds
  | succ bound ih =>
      refine .skip fun opened => .ite (fun _ => .skip fun _ => ?_) fun _ => .pure holds
      exact ih (closed.type_arrayOf holds)

section Rules

variable {grammar : Grammar}
  (types : Ensures dialect trait.tokens (fun found => trait.type found.1) grammar.type)

include types

theorem ensures_typeRule :
    Ensures dialect trait.tokens (fun found => trait.type found.1) (typeRule grammar) := by
  refine .step .get fun start isSafe => .skip fun found => ?_
  extract_lets suffixes
  have suffixed : ∀ found : DataType × Bool, trait.type found.1 →
      Ensures dialect trait.tokens (fun found => trait.type found.1) (suffixes found) := by
    rintro ⟨element, closed⟩ holds
    exact .skip fun _ => .step (ensures_arraySuffixUpTo _ holds) fun type holds => .pure holds
  clear_value suffixes
  split
  next word =>
    extract_lets element
    have elements : ∀ known : Option DataType, (∀ type ∈ known, trait.type type) →
        Ensures dialect trait.tokens (fun found => trait.type found.1) (element known) := by
      intro known holds
      unfold element
      split
      · exact .given (suffixed _ (holds _ rfl))
      · refine .skip fun _ => .step types fun inner holdsInner => .skip fun _ => ?_
        exact .given (suffixed _ (closed.type_angledArray holdsInner))
      · refine .restore isSafe (.step ensures_qualifiedName fun name holdsName => ?_)
        refine .step ensures_optionalModifiers fun modifiers holdsModifiers => ?_
        exact .given (suffixed _ (closed.type_custom holdsName holdsModifiers))
    clear_value element
    split
    · exact .step (ensures_knownType _) elements
    · exact .given (elements _ (by simp))
  · exact .step (ensures_expectedAt _ _) suffixed

theorem ensures_dataType : Ensures dialect trait.tokens trait.type (dataType grammar) := by
  refine .step types fun found holds => .ite (fun _ => ?_) fun _ => .pure holds
  exact .skip fun ahead => .throw _

end Rules

theorem ensures_timeField : Ensures dialect trait.tokens trait.text timeField := by
  have fields : ∀ field ∈ timeFields, Innocent field := by
    decide
  refine .skip fun found => ?_
  split
  next word _ =>
    refine .ite (fun listed => .pure (closed.text_innocent (fields word ?_))) fun _ =>
      ensures_expectedAt _ _
    simpa using listed
  next => exact ensures_expectedAt _ _

end Querent.Sql.Parser
