import Querent.Proofs.Sql.Plain.Following

/-!
# Signs and negations

A sign stands right before its operand.  Where the operand starts with the same sign, two minus
signs open a comment, and two signs for the size of a number are read as another sign, which no term
starts with; either way no operand is found behind the first sign.
-/

namespace Querent.Sql.Plain

open Querent.Sql.Parser

theorem sql_not (operand : Expr) : (Expr.unary .not operand).sql = "NOT " ++ operand.sql := rfl

section Signs

variable {dialect : Dialect} {depth least : Nat} {operator : UnaryOperator} {operand : Expr}
  {behind : Bool → Phrase} {mark : Symbol}

/-! ## Signs -/

theorem exists_sign (known : IsSign dialect operator) : ∃ mark, signOf operator = some mark := by
  rcases known with member | ⟨_, member⟩
  all_goals
    cases operator
    all_goals first | exact ⟨_, rfl⟩ | exact absurd member (by decide)

theorem mem_startMarks (sign : signOf operator = some mark) : mark ∈ startMarks := by
  cases operator <;> cases sign <;> decide

theorem sql_sign (sign : signOf operator = some mark) :
    (Expr.unary operator operand).sql = mark.text ++ operand.sql := by
  cases operator <;> cases sign <;> rfl

theorem oneLine_sign (sign : signOf operator = some mark) :
    '\n' ∉ (Token.symbol mark).text.toList := by
  cases operator <;> cases sign <;> decide

theorem isTame_sign (sign : signOf operator = some mark) : IsTame (.symbol mark) := by
  cases operator <;> cases sign <;> decide

theorem opens_sign (sign : signOf operator = some mark) :
    Opens (opening (.unary operator operand)) (Token.symbol mark).text.toList := by
  have first : opening (.unary operator operand) = some (.symbol mark) :=
    congrArg (Option.map Token.symbol) sign
  rw [first]
  cases operator <;> cases sign
  all_goals exact ⟨_, _, rfl, by decide, by decide, by decide⟩

/-- A sign is read as itself where no equal sign follows it. -/
theorem scans_sign (known : IsSign dialect operator) (sign : signOf operator = some mark)
    (apart : ¬ Meets operator operand) {text : List Char} (opens : Opens (opening operand) text) :
    Scans dialect (.symbol mark) text := by
  obtain ⟨c, rest, rfl, plain, minus, atSign⟩ := opens
  simp only [List.mem_cons, List.not_mem_nil, or_false, not_or] at plain
  obtain ⟨notGreater, notQuestion, notStar⟩ := plain
  cases operator with
  | plus =>
      cases sign
      exact scans_mark dialect _ (by decide)
  | minus =>
      cases sign
      refine scans_minus dialect ?_
      rintro _ ⟨⟩
      exact ⟨fun same => apart ⟨by decide, minus same⟩, notGreater⟩
  | magnitude =>
      cases sign
      obtain rfl : dialect = .postgres := by
        rcases known with member | ⟨postgres, _⟩
        · exact absurd member (by decide)
        · exact postgres
      refine scans_atSign ?_
      rintro _ ⟨⟩
      exact ⟨fun same => apart ⟨by decide, atSign same⟩, notGreater, notQuestion⟩
  | bitwiseNot =>
      cases sign
      refine scans_tilde dialect ?_
      rintro _ ⟨⟩
      exact notStar
  | leadingFactorial =>
      cases sign
      exact scans_mark dialect _ (by decide)
  | squareRoot =>
      cases sign
      exact scans_mark dialect _ (by decide)
  | cubeRoot =>
      cases sign
      exact scans_mark dialect _ (by decide)
  | _ => cases sign

/-- A sign is read with the operand behind it. -/
theorem leadingRule_of_sign {level : Nat} {context : Context} {position : Position}
    {tokens : List Located} (known : IsSign context.dialect operator)
    (sign : signOf operator = some mark) :
    leadingRule (grammarOfDepth level) context (⟨.symbol mark, position⟩ :: tokens)
      = (((grammarOfDepth level).operand (signPrecedence operator) >>= fun operand =>
        pure (.unary operator operand)) >>= collated) context tokens := by
  refine leadingWith_symbol.trans (bind_congr_of_eq ?_)
  rcases known with member | ⟨postgres, member⟩
  · simp only [List.mem_cons, List.not_mem_nil, or_false] at member
    rcases member with rfl | rfl <;> cases sign <;> rfl
  · unfold symbolRule
    rw [bind_of_ok dialect_eq, postgres]
    simp only [List.mem_cons, List.not_mem_nil, or_false] at member
    rcases member with rfl | rfl | rfl | rfl | rfl <;> cases sign <;> rfl

/-- A sign is spelled before an operand that does not start with an equal one. -/
theorem spells_sign (known : IsSign dialect operator) (sign : signOf operator = some mark)
    (apart : ¬ Meets operator operand)
    (spells : Spells dialect depth (signPrecedence operator) operand behind) :
    Spells dialect depth least (.unary operator operand) fun apart =>
      .one apart (.symbol mark) ++ behind false where
  toFronts := by
    refine .lead (.mark (mem_startMarks sign)) (fun _ => .cons (fun following => ?_)
      (oneLine_sign sign) (isTame_sign sign) (spells.clear false)) (opens_sign sign) ?_
      (fun same => by simp [keywordToken] at same) fun _ _ => spells.shown_ne_period false
    · exact scans_sign known sign apart (spells.opens.append following)
    · have first : opening (.unary operator operand) = some (.symbol mark) :=
        congrArg (Option.map Token.symbol) sign
      simp [first]
  text := by
    intro apart
    rw [Phrase.text_append, Phrase.text_one, spells.text, sql_sign sign]
    simp
  reaches := by
    intro size level context apart speaks enough room
    refine .of_rule ((grammarOfDepth level).operand (signPrecedence operator) >>= fun operand =>
      pure (.unary operator operand)) (fun position tokens _ _ => ?_) fun fewer less => ?_
    · exact leadingRule_of_sign (speaks ▸ known) sign
    · show Understands fewer context (looser (min (signPrecedence operator) (edge operand))) _ _ _
      rw [Nat.min_comm]
      exact (spells.operand false speaks (by omega) room).last rfl

/-! ## Signs that meet -/

/-- What a sign and an equal one behind it are read as. -/
def obstacleOf : UnaryOperator → Obstacle
  | .magnitude => .doubleAt
  | _ => .comment

/-- No expression is read where nothing is left, and none starts with what two signs are read as. -/
theorem operandRule_of_obstacle {level : Nat} {context : Context} {tokens : List Located}
    {obstacle : Obstacle} (found : tokenOf tokens.head? = obstacle.token) :
    ∃ error, operandRule (grammarOfDepth level) least context tokens = .error error := by
  cases tokens with
  | nil =>
      have untyped : ∃ error, typedText (grammarOfDepth level)
          (intervalRule (grammarOfDepth level)) context [] = .error error := by
        cases level with
        | zero => exact ⟨_, rfl⟩
        | succ level => exact ⟨_, rfl⟩
      refine ⟨.expected "an expression:" none, bind_of_error ?_⟩
      rw [leadingWith, bind_of_ok (attempt_of_error untyped)]
      rfl
  | cons located rest =>
      obtain ⟨token, position⟩ := located
      cases obstacle with
      | comment => cases found
      | doubleAt =>
          cases found
          refine ⟨.expected "an expression:" (some ⟨.symbol .doubleAt, position⟩),
            bind_of_error ?_⟩
          rw [leadingWith_symbol]
          exact bind_of_error rfl

theorem clear_meeting (known : IsSign dialect operator) (sign : signOf operator = some mark)
    (meets : Meets operator operand) (spells : Spells dialect depth least operand behind)
    (apart : Bool) :
    (Phrase.meeting ⟨apart, .symbol mark⟩ (obstacleOf operator) (behind false)).Clear dialect := by
  obtain ⟨among, same⟩ := meets
  obtain ⟨token, rest, pieces, _, found, _⟩ := spells.pieces false
  rw [same, sign] at found
  cases found _ rfl
  simp only [List.mem_cons, List.not_mem_nil, or_false] at among
  rcases among with rfl | rfl
  · cases sign
    exact .comment pieces (spells.clear false)
  · cases sign
    obtain rfl : dialect = .postgres := by
      rcases known with member | ⟨postgres, _⟩
      · exact absurd member (by decide)
      · exact postgres
    exact .doubleAt pieces (spells.clear false)

/-- Before an operand that starts with an equal sign, a sign is cut off. -/
theorem spells_meeting (known : IsSign dialect operator) (sign : signOf operator = some mark)
    (meets : Meets operator operand)
    (spells : Spells dialect depth (signPrecedence operator) operand behind) :
    Spells dialect depth least (.unary operator operand) fun apart =>
      .meeting ⟨apart, .symbol mark⟩ (obstacleOf operator) (behind false) where
  clear := clear_meeting known sign meets spells
  pieces := by
    intro apart
    have first : opening (.unary operator operand) = some (.symbol mark) :=
      congrArg (Option.map Token.symbol) sign
    exact ⟨_, _, rfl, .mark (mem_startMarks sign), by simp [first],
      fun same => by simp [keywordToken] at same⟩
  opens := by
    rw [Phrase.text_meeting]
    exact (opens_sign sign).append _
  unstarred := by
    intro apart later rest behind _
    exact unstarred_of_obstacle (List.mem_singleton.1 behind)
  text := by
    intro apart
    rw [Phrase.text_meeting, Piece.text, spells.text, sql_sign sign]
    simp
  reaches := by
    intro size level context apart speaks _ _ located rest _ spelled
    cases List.map_eq_nil_iff.1 spelled.same
    have failed : ∃ error, operandRule (grammarOfDepth level) least context rest = .error error :=
      operandRule_of_obstacle (List.mem_singleton.1 spelled.ahead)
    exact failed

/-! ## Negations -/

theorem negationRest_of_ne {grammar : Grammar} {context : Context} {tokens : List Located}
    (notExists : (tokenOf tokens.head?).any (·.isKeyword "EXISTS") = false) :
    negationRest grammar context tokens
      = (grammar.operand negationPrecedence >>= fun operand => pure (.unary .not operand))
        context tokens := by
  rw [negationRest, bind_of_ok (keyword_of_ne notExists)]
  rfl

/-- The word for an existence test would be read with a negation before it. -/
theorem spells_negation (other : opening operand ≠ some (keywordToken "EXISTS"))
    (spells : Spells dialect depth negationPrecedence operand behind) :
    Spells dialect depth least (.unary .not operand) fun apart =>
      .one apart (keywordToken "NOT") ++ behind true where
  toFronts := .lead (.word (by decide)) (fun apart =>
    (Phrase.clear_keyword (by decide) apart).append spells.legible)
    (opens_of_plain (by decide) none) (by simp [opening, signOf])
    (fun same => absurd same (by decide)) fun _ _ => spells.shown_ne_period true
  text := by
    intro apart
    rw [Phrase.text_append, Phrase.text_one, spells.text_true, sql_not]
    simp
  reaches := by
    intro size level context apart speaks enough room
    refine .of_rule (negationRest (grammarOfDepth level)) (fun position tokens _ tame => ?_)
      fun fewer less => ?_
    · exact (leadingWith_keyword (by decide) tame).trans (bind_congr_of_eq rfl)
    · show Understands fewer context (looser (min negationPrecedence (edge operand))) _ _ _
      rw [Nat.min_comm]
      refine Understands.congr ((spells.operand true speaks (by omega) room).last rfl)
        fun tokens ahead _ => negationRest_of_ne ?_
      rcases spells.head_cases ahead with ⟨token, same, starts, exist⟩ | ⟨obstacle, same⟩
      · rw [same, Option.any_some, Bool.eq_false_iff]
        intro spells
        have found := starts.eq_exists_of_isKeyword spells
        exact other (found ▸ exist found)
      · rw [same]
        cases obstacle <;> rfl

end Signs

end Querent.Sql.Plain
