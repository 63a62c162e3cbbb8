import Querent.Proofs.Sql.Plain.Steps

/-!
# Types that are known by their first word

What is read of a type behind its first word.  A word that names a type may stand for a name as
well; then nothing of the type follows it, and no text either, which could be a value of the type.
-/

namespace Querent.Sql.Plain

open Querent.Sql.Parser

section Known

variable {context : Context} {tokens rest : List Located} {word : Keyword} {type : DataType}

/-! ## The first word

The lists of names for types have no names in common.
-/

theorem knownType_of_plain (known : word ∈ plainTypes) :
    knownType word = pure (some (.plain word)) := by
  unfold knownType
  exact if_pos (List.contains_iff_mem.2 known)

theorem knownType_of_sized (known : word ∈ sizedTypes) :
    knownType word = optionalSize >>= fun size => pure (some (.sized word size)) := by
  have others : ∀ word ∈ sizedTypes, ¬ plainTypes.contains word = true := by decide
  unfold knownType
  rw [if_neg (others word known), if_pos (List.contains_iff_mem.2 known)]

theorem knownType_of_integer (known : word ∈ integerTypes) :
    knownType word = optionalSize >>= fun width => keyword "UNSIGNED" >>= fun unsigned =>
      pure (some (.integer word width unsigned)) := by
  have others : ∀ word ∈ integerTypes, ¬ plainTypes.contains word = true ∧
      ¬ sizedTypes.contains word = true := by decide
  obtain ⟨notPlain, notSized⟩ := others word known
  unfold knownType
  rw [if_neg notPlain, if_neg notSized, if_pos (List.contains_iff_mem.2 known)]

theorem knownType_of_decimal (known : word ∈ decimalTypes) :
    knownType word = optionalPrecisionScale >>= fun sizes =>
      pure (some (.decimal word sizes.1 sizes.2)) := by
  have others : ∀ word ∈ decimalTypes, ¬ plainTypes.contains word = true ∧
      ¬ sizedTypes.contains word = true ∧ ¬ integerTypes.contains word = true := by decide
  obtain ⟨notPlain, notSized, notInteger⟩ := others word known
  unfold knownType
  rw [if_neg notPlain, if_neg notSized, if_neg notInteger,
    if_pos (List.contains_iff_mem.2 known)]

theorem zone_of_ne {tokens : List Located}
    (others : ∀ word ∈ ["WITH", "WITHOUT"], (tokenOf tokens.head?).any (·.isKeyword word) = false) :
    zone context tokens = .ok (.unstated, tokens) := by
  rw [zone, bind_of_ok (keyword_of_ne (others "WITH" (by decide))), if_neg Bool.false_ne_true,
    bind_of_ok (keyword_of_ne (others "WITHOUT" (by decide)))]
  rfl

theorem typeRule_of_known {grammar : Grammar} {spelling : Word} {position : Position}
    (spelled : spelling.keyword = some word)
    (read : knownType word context tokens = .ok (some type, rest))
    (noBracket : tokenOf rest.head? ≠ some (.symbol .openBracket)) :
    typeRule grammar context (⟨.word spelling, position⟩ :: tokens)
      = .ok ((type, false), rest) := by
  have suffix : arraySuffixUpTo (rest.length + 1) type context rest = .ok (type, rest) := by
    rw [arraySuffixUpTo, bind_of_ok (symbol_of_ne noBracket)]
    rfl
  rw [typeRule, bind_of_ok get_eq, bind_of_ok next_eq]
  simp only [List.head?_cons, List.tail_cons, tokenOf_some, spelled]
  rw [bind_of_ok read]
  simp only [pure_bind]
  rw [bind_of_ok get_eq, bind_of_ok suffix]
  rfl

/-! ## Words with nothing of a type behind them -/

/-- What may follow a name that is not called. -/
def nameEnds : List (Option Token) :=
  some (.symbol .period) :: followers

/-- Whether a text behind a type is a value of this type. -/
def takesText : DataType → Bool
  | .plain name => name != "INTERVAL"
  | .custom _ _ => false
  | _ => true

theorem absent_of_ahead (ahead : Ahead nameEnds tokens) : ∀ word ∈ ["UNSIGNED", "PRECISION",
    "VARYING", "LARGE", "WITH", "WITHOUT"],
    (tokenOf tokens.head?).any (·.isKeyword word) = false := by
  have behind : ∀ head ∈ nameEnds, ∀ word ∈ ["UNSIGNED", "PRECISION", "VARYING", "LARGE", "WITH",
      "WITHOUT"], head.any (·.isKeyword word) = false := by decide
  exact behind _ ahead

theorem optionalSize_of_ahead (ahead : Ahead nameEnds tokens) :
    optionalSize context tokens = .ok (none, tokens) :=
  bind_of_ok (symbol_of_ahead ahead (by decide))

theorem optionalPrecisionScale_of_ahead (ahead : Ahead nameEnds tokens) :
    optionalPrecisionScale context tokens = .ok ((none, none), tokens) :=
  bind_of_ok (symbol_of_ahead ahead (by decide))

theorem optionalLength_of_ahead (ahead : Ahead nameEnds tokens) :
    optionalLength context tokens = .ok ((none, none), tokens) :=
  bind_of_ok (symbol_of_ahead ahead (by decide))

theorem zone_of_ahead (ahead : Ahead nameEnds tokens) :
    zone context tokens = .ok (.unstated, tokens) :=
  zone_of_ne fun word member => absent_of_ahead ahead word (by revert word; decide)

theorem characterType_of_ahead (name : Keyword) (ahead : Ahead nameEnds tokens) :
    characterType name context tokens = .ok (.characters name none none, tokens) := by
  have absent := absent_of_ahead ahead
  rw [characterType, bind_of_ok (keyword_of_ne (absent "VARYING" (by decide))),
    if_neg Bool.false_ne_true, bind_of_ok (keywords_of_ne (absent "LARGE" (by decide))),
    if_neg Bool.false_ne_true, bind_of_ok (optionalLength_of_ahead ahead)]
  rfl

theorem memberTexts_of_ahead (ahead : Ahead nameEnds tokens) :
    ∃ error, memberTexts context tokens = .error error :=
  ⟨_, bind_of_error (bind_of_ok (symbol_of_ahead ahead (by decide)))⟩

/-- Where nothing of a type follows its first word, the type is this word, or there is none. -/
theorem knownType_of_ahead (known : word ∈ typeWords) (other : word ∉ ["ARRAY", "INTERVAL"])
    (ahead : Ahead nameEnds tokens) :
    (∃ type, takesText type = true ∧ knownType word context tokens = .ok (some type, tokens)) ∨
      ∃ error, knownType word context tokens = .error error := by
  have absent := absent_of_ahead ahead
  have noSize := @optionalSize_of_ahead context tokens ahead
  have zoned (type : Option Nat → Zone → DataType) : (optionalSize >>= fun size => zone >>=
      fun zone => pure (some (type size zone))) context tokens
        = .ok (some (type none .unstated), tokens) :=
    (bind_of_ok noSize).trans (bind_of_ok (zone_of_ahead ahead))
  have characters (name : Keyword) : (characterType name >>= fun type => pure (some type)) context
      tokens = .ok (some (.characters name none none), tokens) :=
    bind_of_ok (characterType_of_ahead name ahead)
  obtain ⟨error, noMembers⟩ := @memberTexts_of_ahead context tokens ahead
  unfold typeWords at known
  simp only [List.mem_append, or_assoc] at known
  rcases known with plain | sized | integer | decimal | others
  · refine .inl ⟨.plain word, ?_, by rw [knownType_of_plain plain]; rfl⟩
    refine bne_iff_ne.2 ?_
    rintro rfl
    exact other (by decide)
  · exact .inl ⟨.sized word none, rfl, by rw [knownType_of_sized sized, bind_of_ok noSize]; rfl⟩
  · refine .inl ⟨.integer word none false, rfl, ?_⟩
    rw [knownType_of_integer integer, bind_of_ok noSize,
      bind_of_ok (keyword_of_ne (absent "UNSIGNED" (by decide)))]
    rfl
  · refine .inl ⟨.decimal word none none, rfl, ?_⟩
    rw [knownType_of_decimal decimal, bind_of_ok (optionalPrecisionScale_of_ahead ahead)]
    rfl
  · simp only [List.mem_cons, List.not_mem_nil, or_false] at others
    rcases others with rfl | rfl | rfl | rfl | rfl | rfl | rfl | rfl | rfl | rfl | rfl
    · exact .inl ⟨.plain "DOUBLE", rfl,
        bind_of_ok (keyword_of_ne (absent "PRECISION" (by decide)))⟩
    · exact .inl ⟨_, rfl, bind_of_ok (optionalLength_of_ahead ahead)⟩
    · exact .inl ⟨.characters "CHARACTER" none none, rfl, characters "CHARACTER"⟩
    · exact .inl ⟨.characters "CHAR" none none, rfl, characters "CHAR"⟩
    · exact .inl ⟨_, rfl, zoned (.temporal "TIMESTAMP")⟩
    · exact .inl ⟨_, rfl, bind_of_ok noSize⟩
    · exact .inl ⟨_, rfl, zoned (.temporal "TIME")⟩
    · exact .inl ⟨_, rfl, bind_of_ok noSize⟩
    · exact .inr ⟨_, bind_of_error noMembers⟩
    · exact .inr ⟨_, bind_of_error noMembers⟩
    · exact absurd (by decide) other

end Known

end Querent.Sql.Plain
