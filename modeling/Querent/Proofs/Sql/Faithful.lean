import Mathlib.Data.List.Sort
import Mathlib.Data.String.Basic
import Querent.Proofs.Sql.Spelling
import Querent.Sql.Faithful

/-!
# What a faithful text keeps

Faithful texts are compared by a sorted list in which numbers, quoted texts and brackets are all
written alike, as strings.  Nothing is mixed up by that: a number has neither quotes nor brackets, so
what is written down can be read back.  Two texts are therefore faithful to each other exactly when
they have the same numbers, the same texts in single quotes and as many brackets of either sort,
whatever their order and whatever stands between them.
-/

namespace Querent.Sql

variable {dialect : Dialect}

/-! ## Reading back what was written down -/

namespace Significant

/-- Whether a number is written with the characters of a number alone. -/
def Legible : Significant → Prop
  | number digits => ∀ c ∈ digits.toList, Lexer.isNumeral c = true
  | _ => True

/-- The significant token that was written down. -/
def ofWritten (line : String) : Significant :=
  match line.toList with
  | '\'' :: quoted => text (String.ofList quoted.dropLast)
  | '[' :: _ => openBracket
  | ']' :: _ => closeBracket
  | _ => number line

/-- What is written down of a significant token can be read back. -/
theorem ofWritten_written {token : Significant} (legible : token.Legible) :
    ofWritten token.written = token := by
  cases token with
  | number digits =>
      have plain : ∀ c ∈ (number digits).written.toList, Lexer.isNumeral c = true := legible
      unfold ofWritten
      split
      next first => exact absurd (plain '\'' (by simp [first])) (by decide)
      next first => exact absurd (plain '[' (by simp [first])) (by decide)
      next first => exact absurd (plain ']' (by simp [first])) (by decide)
      next => rfl
  | text value => simp [ofWritten, written]
  | openBracket => rfl
  | closeBracket => rfl

/-- Legible tokens of which the same is written down are the same. -/
theorem perm_of_map_written {before after : List Significant}
    (legible : ∀ token ∈ before, token.Legible) (legible' : ∀ token ∈ after, token.Legible)
    (same : (before.map written).Perm (after.map written)) : before.Perm after := by
  have readBack : ∀ found : List Significant, (∀ token ∈ found, token.Legible) →
      (found.map written).map ofWritten = found := by
    intro found legible
    rw [List.map_map, List.map_congr_left (g := id), List.map_id]
    intro token member
    exact ofWritten_written (legible token member)
  rw [← readBack before legible, ← readBack after legible']
  exact same.map ofWritten

end Significant

/-! ## Significant tokens -/

namespace Token

theorem significant?_eq_number_iff {token : Token} {digits : String} :
    token.significant? = some (.number digits) ↔ ∃ long, token = .number digits long := by
  unfold significant?
  split <;> simp_all

theorem significant?_eq_text_iff {token : Token} {value : String} :
    token.significant? = some (.text value) ↔ token = .quoted .single value := by
  unfold significant?
  split <;> simp_all

theorem significant?_eq_openBracket_iff {token : Token} :
    token.significant? = some .openBracket ↔ token = .symbol .openBracket := by
  unfold significant?
  split <;> simp_all

theorem significant?_eq_closeBracket_iff {token : Token} :
    token.significant? = some .closeBracket ↔ token = .symbol .closeBracket := by
  unfold significant?
  split <;> simp_all

end Token

/-- The tokens of a text are legible, since its numbers are taken from it as numbers. -/
theorem legible_of_significantTokens {source : String} {found : List Significant}
    (read : significantTokens dialect source = some found) : ∀ token ∈ found, token.Legible := by
  unfold significantTokens tokens at read
  cases scanned : locatedTokens dialect source with
  | error error =>
      rw [scanned] at read
      cases read
  | ok located =>
      rw [scanned] at read
      cases read
      intro significant member
      rcases List.mem_filterMap.1 member with ⟨token, isToken, same⟩
      rcases List.mem_map.1 isToken with ⟨place, isPlace, rfl⟩
      have taken := takenFrom_of_locatedTokens scanned place isPlace
      cases significant with
      | number digits =>
          rcases Token.significant?_eq_number_iff.1 same with ⟨long, isNumber⟩
          rw [isNumber] at taken
          cases taken with
          | number numeral inText => exact numeral
      | _ => trivial

theorem inventory_eq_iff {before after : List Significant} :
    inventory before = inventory after ↔
      (before.map Significant.written).Perm (after.map Significant.written) := by
  have sorts : ∀ found, (inventory found).Perm (found.map Significant.written) :=
    fun found => List.mergeSort_perm ..
  constructor
  · intro same
    exact (sorts before).symm.trans (same ▸ sorts after)
  · intro same
    apply List.Perm.eq_of_sortedLE List.sortedLE_mergeSort List.sortedLE_mergeSort
    exact (sorts before).trans (same.trans (sorts after).symm)

/-- Two texts with tokens are faithful to each other when their significant tokens are the same. -/
theorem isFaithful_iff {dialect : Dialect} {source rewritten : String} :
    isFaithful dialect source rewritten = true ↔
      ∃ before after, significantTokens dialect source = some before ∧
        significantTokens dialect rewritten = some after ∧ before.Perm after := by
  unfold isFaithful
  split
  next before after sourceTokens rewrittenTokens =>
    rw [beq_iff_eq, inventory_eq_iff]
    constructor
    · intro same
      exact ⟨before, after, sourceTokens, rewrittenTokens,
        Significant.perm_of_map_written (legible_of_significantTokens sourceTokens)
          (legible_of_significantTokens rewrittenTokens) same⟩
    · rintro ⟨before', after', sourceTokens', rewrittenTokens', same⟩
      rw [sourceTokens] at sourceTokens'
      rw [rewrittenTokens] at rewrittenTokens'
      cases sourceTokens'
      cases rewrittenTokens'
      exact same.map _
  next missing =>
    constructor
    · intro faithful
      cases faithful
    · rintro ⟨before, after, sourceTokens, rewrittenTokens, -⟩
      exact absurd rewrittenTokens (missing before after sourceTokens)

/-! ## What is kept -/

/-- The digits of a number, whether or not a suffix follows them. -/
def Token.digits? : Token → Option String
  | number digits _ => some digits
  | _ => none

/-- The value of a text in single quotes. -/
def Token.quotedValue? : Token → Option String
  | quoted .single value => some value
  | _ => none

/--
Whether tokens have the same numbers, the same texts in single quotes and as many square brackets of
either sort as others, each as often.
-/
structure KeepsLiterals (before after : List Token) : Prop where
  numbers : (before.filterMap Token.digits?).Perm (after.filterMap Token.digits?)
  texts : (before.filterMap Token.quotedValue?).Perm (after.filterMap Token.quotedValue?)
  openBrackets : before.count (.symbol .openBracket) = after.count (.symbol .openBracket)
  closeBrackets : before.count (.symbol .closeBracket) = after.count (.symbol .closeBracket)

section Counts

variable (tokens : List Token)

theorem count_number (digits : String) :
    (tokens.filterMap Token.significant?).count (.number digits) =
      (tokens.filterMap Token.digits?).count digits := by
  rw [List.count_filterMap, List.count_filterMap]
  apply List.countP_congr
  intro token _
  rw [beq_iff_eq, beq_iff_eq, Token.significant?_eq_number_iff]
  cases token <;> simp [Token.digits?]

theorem count_text (value : String) :
    (tokens.filterMap Token.significant?).count (.text value) =
      (tokens.filterMap Token.quotedValue?).count value := by
  rw [List.count_filterMap, List.count_filterMap]
  apply List.countP_congr
  intro token _
  rw [beq_iff_eq, beq_iff_eq, Token.significant?_eq_text_iff]
  unfold Token.quotedValue?
  split <;> simp_all

theorem count_openBracket :
    (tokens.filterMap Token.significant?).count .openBracket =
      tokens.count (.symbol .openBracket) := by
  rw [List.count_filterMap, List.count]
  apply List.countP_congr
  intro token _
  rw [beq_iff_eq, beq_iff_eq, Token.significant?_eq_openBracket_iff]

theorem count_closeBracket :
    (tokens.filterMap Token.significant?).count .closeBracket =
      tokens.count (.symbol .closeBracket) := by
  rw [List.count_filterMap, List.count]
  apply List.countP_congr
  intro token _
  rw [beq_iff_eq, beq_iff_eq, Token.significant?_eq_closeBracket_iff]

end Counts

/-- Tokens keep the significant ones of others when they keep each of the four sorts. -/
theorem perm_significant_iff {before after : List Token} :
    (before.filterMap Token.significant?).Perm (after.filterMap Token.significant?) ↔
      KeepsLiterals before after := by
  constructor
  · intro same
    have counted := List.perm_iff_count.1 same
    exact {
      numbers := List.perm_iff_count.2 fun digits => by
        rw [← count_number, ← count_number, counted]
      texts := List.perm_iff_count.2 fun value => by
        rw [← count_text, ← count_text, counted]
      openBrackets := by rw [← count_openBracket, ← count_openBracket, counted]
      closeBrackets := by rw [← count_closeBracket, ← count_closeBracket, counted] }
  · intro keeps
    apply List.perm_iff_count.2
    intro significant
    cases significant with
    | number digits => rw [count_number, count_number, keeps.numbers.count_eq]
    | text value => rw [count_text, count_text, keeps.texts.count_eq]
    | openBracket => rw [count_openBracket, count_openBracket, keeps.openBrackets]
    | closeBracket => rw [count_closeBracket, count_closeBracket, keeps.closeBrackets]

namespace KeepsLiterals

variable {before after later : List Token}

theorem of_perm (same : before.Perm after) : KeepsLiterals before after :=
  perm_significant_iff.1 (same.filterMap _)

theorem symm (keeps : KeepsLiterals before after) : KeepsLiterals after before :=
  perm_significant_iff.1 (perm_significant_iff.2 keeps).symm

theorem trans (first : KeepsLiterals before after) (second : KeepsLiterals after later) :
    KeepsLiterals before later :=
  perm_significant_iff.1 ((perm_significant_iff.2 first).trans (perm_significant_iff.2 second))

/-- Where a number gives way to a token, that token is the same number. -/
theorem of_exchange {digits : String} {long : Bool} {other : Token}
    (keeps : KeepsLiterals (before ++ .number digits long :: after) (before ++ other :: after)) :
    ∃ suffix, other = .number digits suffix := by
  have counted := keeps.numbers.count_eq digits
  rw [List.count_filterMap, List.count_filterMap, List.countP_append, List.countP_append,
    List.countP_cons_of_pos (by simp [Token.digits?])] at counted
  have isNumber : other.digits? = some digits := by
    by_contra differs
    rw [List.countP_cons_of_neg (by simpa using differs)] at counted
    omega
  cases other with
  | number value suffix =>
      cases isNumber
      exact ⟨suffix, rfl⟩
  | _ => cases isNumber

end KeepsLiterals

theorem significantTokens_eq_some_iff {source : String} {found : List Significant} :
    significantTokens dialect source = some found ↔
      ∃ scanned, tokens dialect source = .ok scanned ∧
        found = scanned.filterMap Token.significant? := by
  unfold significantTokens
  cases tokens dialect source with
  | error error => simp
  | ok scanned => simp [eq_comm]

theorem isFaithful_iff_keepsLiterals {source rewritten : String} :
    isFaithful dialect source rewritten = true ↔
      ∃ before after, tokens dialect source = .ok before ∧ tokens dialect rewritten = .ok after ∧
        KeepsLiterals before after := by
  rw [isFaithful_iff]
  constructor
  · rintro ⟨_, _, read, read', same⟩
    rcases significantTokens_eq_some_iff.1 read with ⟨before, scanned, rfl⟩
    rcases significantTokens_eq_some_iff.1 read' with ⟨after, scanned', rfl⟩
    exact ⟨before, after, scanned, scanned', perm_significant_iff.1 same⟩
  · rintro ⟨before, after, scanned, scanned', keeps⟩
    exact ⟨_, _, significantTokens_eq_some_iff.2 ⟨before, scanned, rfl⟩,
      significantTokens_eq_some_iff.2 ⟨after, scanned', rfl⟩, perm_significant_iff.2 keeps⟩

/-- Whether a text can be divided into tokens. -/
def HasTokens (dialect : Dialect) (text : String) : Prop :=
  ∃ found, tokens dialect text = .ok found

/-- Whether two texts have the same tokens but for their order. -/
def Reordered (dialect : Dialect) (text other : String) : Prop :=
  ∃ before after, tokens dialect text = .ok before ∧ tokens dialect other = .ok after ∧
    before.Perm after

theorem isFaithful_of_tokens {source rewritten : String} {before after : List Token}
    (scanned : tokens dialect source = .ok before) (scanned' : tokens dialect rewritten = .ok after) :
    isFaithful dialect source rewritten = true ↔ KeepsLiterals before after := by
  rw [isFaithful_iff_keepsLiterals]
  constructor
  · rintro ⟨_, _, read, read', keeps⟩
    rw [scanned] at read
    rw [scanned'] at read'
    cases read
    cases read'
    exact keeps
  · intro keeps
    exact ⟨before, after, scanned, scanned', keeps⟩

/--
Texts are faithful to each other exactly when both have tokens, with the same numbers, the same texts
in single quotes and as many square brackets of either sort.  No number gives way to anything but
itself, texts with tokens are related as equals are, a text without tokens is related to none, and
the order of the tokens makes no difference.
-/
theorem isFaithful_iff_same_literals (dialect : Dialect) :
    (∀ source rewritten, isFaithful dialect source rewritten = true ↔
      ∃ before after, tokens dialect source = .ok before ∧ tokens dialect rewritten = .ok after ∧
        KeepsLiterals before after) ∧
    (∀ source rewritten before after digits long other,
      tokens dialect source = .ok (before ++ .number digits long :: after) →
        tokens dialect rewritten = .ok (before ++ other :: after) →
          isFaithful dialect source rewritten = true → ∃ suffix, other = .number digits suffix) ∧
    Equivalence (fun first second : { text // HasTokens dialect text } =>
      isFaithful dialect first.1 second.1 = true) ∧
    (∀ source rewritten, ¬ HasTokens dialect source ∨ ¬ HasTokens dialect rewritten →
      isFaithful dialect source rewritten = false) ∧
    (∀ source source' rewritten rewritten', Reordered dialect source source' →
      Reordered dialect rewritten rewritten' →
        isFaithful dialect source rewritten = isFaithful dialect source' rewritten') := by
  constructor
  · intro source rewritten
    exact isFaithful_iff_keepsLiterals
  constructor
  · intro source rewritten before after digits long other scanned scanned' faithful
    exact ((isFaithful_of_tokens scanned scanned').1 faithful).of_exchange
  constructor
  · constructor
    case refl =>
      rintro ⟨text, found, scanned⟩
      exact (isFaithful_of_tokens scanned scanned).2 (.of_perm (.refl _))
    case symm =>
      rintro ⟨first, found, scanned⟩ ⟨second, found', scanned'⟩ faithful
      apply (isFaithful_of_tokens scanned' scanned).2
      exact ((isFaithful_of_tokens scanned scanned').1 faithful).symm
    case trans =>
      rintro ⟨first, found, scanned⟩ ⟨second, found', scanned'⟩ ⟨third, found'', scanned''⟩ left right
      apply (isFaithful_of_tokens scanned scanned'').2
      exact ((isFaithful_of_tokens scanned scanned').1 left).trans
        ((isFaithful_of_tokens scanned' scanned'').1 right)
  constructor
  · intro source rewritten lacking
    apply Bool.eq_false_iff.2
    intro faithful
    rcases isFaithful_iff_keepsLiterals.1 faithful with ⟨before, after, scanned, scanned', -⟩
    rcases lacking with lacking | lacking
    · exact lacking ⟨before, scanned⟩
    · exact lacking ⟨after, scanned'⟩
  · rintro source source' rewritten rewritten' ⟨found, reordered, scanned, scanned', same⟩
      ⟨printed, reprinted, read, read', same'⟩
    apply Bool.eq_iff_iff.2
    rw [isFaithful_of_tokens scanned read, isFaithful_of_tokens scanned' read']
    constructor
    · intro keeps
      exact ((KeepsLiterals.of_perm same).symm.trans keeps).trans (.of_perm same')
    · intro keeps
      exact ((KeepsLiterals.of_perm same).trans keeps).trans (KeepsLiterals.of_perm same').symm

theorem isFaithful_iff_same_literals_sum :
    isFaithful .duckDb "SELECT 1L + a[2], '''' FROM t"
      "SELECT '''', 2 + a[1] FROM t" = true ∧
      isFaithful .duckDb "SELECT 1" "SELECT '1'" = false ∧
      isFaithful .duckDb "SELECT 'a" "SELECT 'a" = false ∧
      isFaithful .duckDb "a < 1" "1 > a" = isFaithful .duckDb "1 < a" "a > 1" := by
  rcases isFaithful_iff_same_literals .duckDb with ⟨same, exchanged, -, lacking, reordered⟩
  constructor
  · apply (same _ _).2
    refine ⟨[.word (.plain "SELECT".toList), .number "1" true, .symbol .plus,
      .word (.plain "a".toList), .symbol .openBracket, .number "2" false, .symbol .closeBracket,
      .symbol .comma, .quoted .single "'", .word (.plain "FROM".toList), .word (.plain "t".toList)],
      [.word (.plain "SELECT".toList), .quoted .single "'", .symbol .comma, .number "2" false,
      .symbol .plus, .word (.plain "a".toList), .symbol .openBracket, .number "1" false,
      .symbol .closeBracket, .word (.plain "FROM".toList), .word (.plain "t".toList)],
      by decide +kernel, by decide +kernel, ?_⟩
    constructor <;> decide
  constructor
  · apply Bool.eq_false_iff.2
    intro faithful
    rcases exchanged "SELECT 1" "SELECT '1'" [.word (.plain "SELECT".toList)] [] "1" false
      (.quoted .single "1") (by decide +kernel) (by decide +kernel) faithful with ⟨suffix, same⟩
    cases same
  constructor
  · apply lacking
    left
    rintro ⟨found, scanned⟩
    have unscanned : (tokens .duckDb "SELECT 'a").toOption = none := by decide +kernel
    rw [scanned] at unscanned
    cases unscanned
  · apply reordered
    · exact ⟨[.word (.plain "a".toList), .symbol .less, .number "1" false],
        [.number "1" false, .symbol .less, .word (.plain "a".toList)], by decide +kernel,
        by decide +kernel, by decide⟩
    · exact ⟨[.number "1" false, .symbol .greater, .word (.plain "a".toList)],
        [.word (.plain "a".toList), .symbol .greater, .number "1" false], by decide +kernel,
        by decide +kernel, by decide⟩

end Querent.Sql
