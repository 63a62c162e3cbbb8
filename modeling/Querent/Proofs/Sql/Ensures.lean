import Querent.Sql.Grammar.Basic

/-!
# What parsers ensure

A parser takes tokens off the front of a list, or puts back those that it has taken.  So a condition
on tokens *lasts* through a parser when it stays true of every end of a list.  `Ensures` says of a
parser that it keeps such a condition and that every value it reads satisfies a postcondition;
`Reads` says no more than that it keeps every condition that lasts, and is found along the
definition of the parser.

A rule of the grammar is treated step by step: `Ensures.skip` passes over a step whose value does not
matter, `Ensures.step` over one whose value satisfies a postcondition.
-/

namespace Querent.Sql

/-- Whether a condition on tokens stays true when tokens are taken off the front. -/
class Lasts (safe : List Located → Prop) : Prop where
  suffix : ∀ {tokens rest : List Located}, safe tokens → rest <:+ tokens → safe rest

theorem Lasts.tail {safe : List Located → Prop} [lasts : Lasts safe] {tokens : List Located}
    (isSafe : safe tokens) : safe tokens.tail :=
  lasts.suffix isSafe (List.tail_suffix tokens)

theorem Lasts.of_cons {safe : List Located → Prop} [Lasts safe] {located : Located}
    {rest : List Located} (isSafe : safe (located :: rest)) : safe rest :=
  tail isSafe

/-- Steps succeed together when the first succeeds and then those after it. -/
theorem Parser.bind_eq_ok {α β : Type} {first : Parser α} {next : α → Parser β}
    {context : Context} {tokens : List Located} {result : β × List Located} :
    (first >>= next) context tokens = .ok result ↔
      ∃ value left, first context tokens = .ok (value, left) ∧
        next value context left = .ok result := by
  change (first context tokens >>= fun read => next read.1 context read.2) = _ ↔ _
  cases firstly : first context tokens with
  | error error =>
      constructor
      · rintro ⟨⟩
      · rintro ⟨value, left, ⟨⟩, _⟩
  | ok read =>
      constructor
      · intro later
        exact ⟨read.1, read.2, rfl, later⟩
      · rintro ⟨_, _, ⟨⟩, later⟩
        exact later

/--
Whether a parser, wherever it succeeds in a dialect on tokens that satisfy a condition, reads a value
that satisfies a postcondition and leaves tokens that satisfy the condition again.
-/
def Ensures {α : Type} (dialect : Dialect) (safe : List Located → Prop) (post : α → Prop)
    (parser : Parser α) : Prop :=
  ∀ context, context.dialect = dialect → ∀ tokens, safe tokens → ∀ value rest,
    parser context tokens = .ok (value, rest) → post value ∧ safe rest

/-- Whether a parser keeps every condition on tokens that lasts. -/
class Reads {α : Type} (parser : Parser α) : Prop where
  ensures : ∀ dialect safe [Lasts safe], Ensures dialect safe (fun _ => True) parser

namespace Ensures

variable {α β : Type} {dialect : Dialect} {safe : List Located → Prop} {post : α → Prop}
  {final : β → Prop} {parser : Parser α}

theorem mono {weaker : α → Prop} (ensures : Ensures dialect safe post parser)
    (weaken : ∀ value, post value → weaker value) : Ensures dialect safe weaker parser := by
  intro context same tokens isSafe value rest parsed
  obtain ⟨holds, left⟩ := ensures context same tokens isSafe value rest parsed
  exact ⟨weaken value holds, left⟩

theorem pure {value : α} (holds : post value) : Ensures dialect safe post (Pure.pure value) := by
  rintro context same tokens isSafe _ _ ⟨⟩
  exact ⟨holds, isSafe⟩

theorem throw (error : SyntaxError) : Ensures dialect safe post (throw error : Parser α) := by
  rintro context same tokens isSafe value rest ⟨⟩

/-- A step whose value satisfies a postcondition, and the steps after it. -/
theorem step {next : α → Parser β} (first : Ensures dialect safe post parser)
    (later : ∀ value, post value → Ensures dialect safe final (next value)) :
    Ensures dialect safe final (parser >>= next) := by
  intro context same tokens isSafe value rest parsed
  obtain ⟨found, left, firstly, laterly⟩ := Parser.bind_eq_ok.1 parsed
  obtain ⟨holds, safeLeft⟩ := first context same tokens isSafe found left firstly
  exact later found holds context same left safeLeft value rest laterly

/-- A step whose value does not matter, and the steps after it. -/
theorem skip [Lasts safe] [skipped : Reads parser] {next : α → Parser β}
    (later : ∀ value, Ensures dialect safe final (next value)) :
    Ensures dialect safe final (parser >>= next) :=
  step (skipped.ensures dialect safe) fun value _ => later value

/-- A step that only gives a value to those after it. -/
theorem given {value : α} {next : α → Parser β}
    (later : Ensures dialect safe final (next value)) :
    Ensures dialect safe final (Pure.pure value >>= next) :=
  have known : Ensures dialect safe (fun found => found = value) (Pure.pure value) := pure rfl
  known.step fun _ same => same ▸ later

theorem map {f : α → β} (ensures : Ensures dialect safe post parser)
    (holds : ∀ value, post value → final (f value)) : Ensures dialect safe final (f <$> parser) := by
  have mapped : Ensures dialect safe final (parser >>= fun value => Pure.pure (f value)) :=
    step ensures fun value held => pure (holds value held)
  exact mapped

theorem ite {condition : Prop} [Decidable condition] {other : Parser α}
    (yes : condition → Ensures dialect safe post parser)
    (no : ¬ condition → Ensures dialect safe post other) :
    Ensures dialect safe post (if condition then parser else other) := by
  split
  · exact yes ‹_›
  · exact no ‹_›

/-- A step that is taken on a condition and replaced by a value otherwise. -/
theorem perhaps {condition : Prop} [Decidable condition] {value : α} {next : α → Parser β}
    (first : Ensures dialect safe post parser) (holds : post value)
    (later : ∀ value, post value → Ensures dialect safe final (next value)) :
    Ensures dialect safe final
      (if condition then parser >>= next else Pure.pure value >>= next) :=
  ite (fun _ => step first later) fun _ => given (later value holds)

/-- A step that is replaced by a value unless a test succeeds, taken together with the test. -/
theorem tested {test : Parser Bool} {value : α} {next : α → Parser β}
    (first : Ensures dialect safe post (test >>= fun yes => if yes then parser else Pure.pure value))
    (later : ∀ value, post value → Ensures dialect safe final (next value)) :
    Ensures dialect safe final
      (test >>= fun yes => if yes then parser >>= next else Pure.pure value >>= next) := by
  have same : (test >>= fun yes => if yes then parser >>= next else Pure.pure value >>= next) =
      (test >>= fun yes => if yes then parser else Pure.pure value) >>= next := by
    rw [bind_assoc]
    refine bind_congr fun yes => ?_
    split <;> rfl
  exact same ▸ first.step later

/-- The tokens that are still to be read satisfy the condition. -/
theorem get : Ensures dialect safe safe (get : Parser (List Located)) := by
  rintro context same tokens isSafe _ _ ⟨⟩
  exact ⟨isSafe, isSafe⟩

/-- Tokens that satisfy the condition may be put back before the steps that follow. -/
theorem restore {tokens : List Located} (isSafe : safe tokens) {next : PUnit → Parser β}
    (later : Ensures dialect safe final (next ⟨⟩)) :
    Ensures dialect safe final (set tokens >>= next) := by
  have restored : Ensures dialect safe (fun _ => True) (set tokens : Parser PUnit) := by
    rintro context same _ _ _ _ ⟨⟩
    exact ⟨trivial, isSafe⟩
  exact restored.step fun _ _ => later

theorem reads {post : α → Prop}
    (ensures : ∀ dialect safe [Lasts safe], Ensures dialect safe post parser) : Reads parser :=
  ⟨fun dialect safe => (ensures dialect safe).mono fun _ _ => trivial⟩

end Ensures

/-! ## Parsers that only take tokens off -/

namespace Reads

variable {α β : Type} {parser : Parser α}

instance pure (value : α) : Reads (Pure.pure value : Parser α) :=
  ⟨fun _ _ => .pure trivial⟩

instance throw (error : SyntaxError) : Reads (throw error : Parser α) :=
  ⟨fun _ _ => .throw error⟩

instance bind {next : α → Parser β} [Reads parser] [later : ∀ value, Reads (next value)] :
    Reads (parser >>= next) :=
  ⟨fun dialect safe => .skip fun value => (later value).ensures dialect safe⟩

instance map {f : α → β} [mapped : Reads parser] : Reads (f <$> parser) :=
  ⟨fun dialect safe => (mapped.ensures dialect safe).map fun _ _ => trivial⟩

instance discard [Reads parser] : Reads (discard parser) :=
  inferInstanceAs (Reads ((fun _ => ()) <$> parser))

instance ite {condition : Prop} [Decidable condition] {other : Parser α} [yes : Reads parser]
    [no : Reads other] : Reads (if condition then parser else other) :=
  ⟨fun dialect safe => .ite (fun _ => yes.ensures dialect safe) fun _ => no.ensures dialect safe⟩

instance and {first second : Parser Bool} [Reads first] [Reads second] :
    Reads (first <&&> second) := by
  unfold andM
  refine @bind _ _ _ _ _ fun value => ?_
  split <;> infer_instance

instance or {first second : Parser Bool} [Reads first] [Reads second] :
    Reads (first <||> second) := by
  unfold orM
  refine @bind _ _ _ _ _ fun value => ?_
  split <;> infer_instance

end Reads

instance : Reads (get : Parser (List Located)) :=
  ⟨fun _ _ _ => Ensures.get.mono fun _ _ => trivial⟩

instance : Reads (read : Parser Context) := by
  refine ⟨fun dialect safe _ => ?_⟩
  rintro context same tokens isSafe _ _ ⟨⟩
  exact ⟨trivial, isSafe⟩

namespace Parser

variable {α : Type} {dialect : Dialect} {safe : List Located → Prop} {post : α → Prop}

instance : Reads Parser.dialect := by
  unfold Parser.dialect
  infer_instance

instance (dialects : List Dialect) : Reads (dialectIn dialects) := by
  unfold dialectIn
  infer_instance

instance : Reads peek := by
  unfold peek
  infer_instance

instance (n : Nat) : Reads (peekAt n) := by
  unfold peekAt
  infer_instance

instance : Reads next := by
  refine ⟨fun dialect safe _ => .step .get fun tokens isSafe => ?_⟩
  exact .restore (Lasts.tail isSafe) (.pure trivial)

instance (what : String) (found : Option Located) :
    Reads (expectedAt what found : Parser α) := by
  unfold expectedAt
  infer_instance

theorem ensures_expectedAt (what : String) (found : Option Located) :
    Ensures dialect safe post (expectedAt what found) :=
  .throw _

instance (mark : Symbol) : Reads (symbol mark) := by
  refine ⟨fun dialect safe _ => .step .get fun tokens isSafe => ?_⟩
  split
  next found position rest =>
    refine .ite (fun _ => ?_) fun _ => .pure trivial
    exact .restore (Lasts.of_cons isSafe) (.pure trivial)
  next => exact .pure trivial

instance (word : Keyword) : Reads (atKeyword word) := by
  unfold atKeyword
  infer_instance

instance (word : Keyword) : Reads (keyword word) := by
  refine ⟨fun dialect safe _ => .step .get fun tokens isSafe => ?_⟩
  split
  next located rest =>
    refine .ite (fun _ => ?_) fun _ => .pure trivial
    exact .restore (Lasts.of_cons isSafe) (.pure trivial)
  next => exact .pure trivial

theorem afterKeywords_suffix {words : List Keyword} {tokens rest : List Located}
    (found : afterKeywords words tokens = some rest) : rest <:+ tokens := by
  induction words generalizing tokens with
  | nil =>
      cases found
      exact List.suffix_rfl
  | cons word words ih =>
      cases tokens with
      | nil => cases found
      | cons located tokens =>
          rw [afterKeywords] at found
          split at found
          · exact (ih found).trans (List.suffix_cons _ _)
          · cases found

instance (words : List Keyword) : Reads (keywords words) := by
  refine ⟨fun dialect safe lasts => .step .get fun tokens isSafe => ?_⟩
  split
  next rest found =>
    exact .restore (lasts.suffix isSafe (afterKeywords_suffix found)) (.pure trivial)
  next => exact .pure trivial

instance (words : List Keyword) : Reads (oneOf words) := by
  unfold oneOf
  refine @Reads.bind _ _ _ _ _ fun found => ?_
  split <;> infer_instance

section Lasting

variable [Lasts safe]

theorem ensures_expected (what : String) : Ensures dialect safe post (expected what) :=
  .skip fun _ => ensures_expectedAt what _

theorem ensures_refuse (wording : String) : Ensures dialect safe post (refuse wording) :=
  .skip fun _ => .throw _

omit [Lasts safe] in
theorem ensures_nested {parser : Parser α} (ensures : Ensures dialect safe post parser) :
    Ensures dialect safe post (nested parser) := by
  intro context same tokens isSafe value rest parsed
  unfold nested at parsed
  split at parsed
  · cases parsed
  next budget _ =>
    exact ensures { context with budget := budget } same tokens isSafe value rest parsed

omit [Lasts safe] in
/-- A parser that fails in an attempt leaves the tokens that were there before. -/
theorem ensures_attempt {parser : Parser α} (ensures : Ensures dialect safe post parser) :
    Ensures dialect safe (fun found => ∀ value ∈ found, post value) (attempt parser) := by
  intro context same tokens isSafe found rest parsed
  unfold attempt at parsed
  split at parsed
  next value left succeeded =>
    cases parsed
    obtain ⟨holds, safeLeft⟩ := ensures context same tokens isSafe value rest succeeded
    refine ⟨?_, safeLeft⟩
    rintro _ ⟨⟩
    exact holds
  next error failed =>
    cases parsed
    exact ⟨by simp, isSafe⟩

end Lasting

instance (what : String) : Reads (expected what : Parser α) :=
  ⟨fun _ _ => ensures_expected what⟩

instance (wording : String) : Reads (refuse wording : Parser α) :=
  ⟨fun _ _ => ensures_refuse wording⟩

instance (mark : Symbol) : Reads (expectSymbol mark) := by
  unfold expectSymbol
  infer_instance

instance (word : Keyword) : Reads (expectKeyword word) := by
  unfold expectKeyword
  infer_instance

instance (words : List Keyword) : Reads (expectKeywords words) := by
  unfold expectKeywords
  induction words with
  | nil => exact .pure _
  | cons word words ih => exact .bind

instance (words : List Keyword) : Reads (expectOneOf words) := by
  unfold expectOneOf
  refine @Reads.bind _ _ _ _ _ fun found => ?_
  split <;> infer_instance

/-! ### Lists -/

section Lists

variable [Lasts safe] {item : Parser α}

theorem ensures_commaSeparated (items : Ensures dialect safe post item) :
    Ensures dialect safe (fun values => ∀ value ∈ values, post value) (commaSeparated item) := by
  have upTo : ∀ bound, Ensures dialect safe (fun values => ∀ value ∈ values, post value)
      (commaSeparatedUpTo item bound) := by
    intro bound
    induction bound with
    | zero => exact .pure (by simp)
    | succ bound ih =>
        refine .step items fun first holds => ?_
        refine .skip fun comma => .ite (fun _ => ?_) fun _ => .pure (by simpa using holds)
        exact .step ih fun rest holdsRest => .pure (by simpa using ⟨holds, holdsRest⟩)
  exact .skip fun tokens => upTo _

theorem ensures_many {item : Parser (Option α)}
    (items : Ensures dialect safe (fun found => ∀ value ∈ found, post value) item) :
    Ensures dialect safe (fun values => ∀ value ∈ values, post value) (many item) := by
  have upTo : ∀ bound, Ensures dialect safe (fun values => ∀ value ∈ values, post value)
      (manyUpTo item bound) := by
    intro bound
    induction bound with
    | zero => exact .pure (by simp)
    | succ bound ih =>
        refine .step items fun found holds => ?_
        split
        next first =>
          have holdsFirst := holds first rfl
          exact .step ih fun rest holdsRest => .pure (by simpa using ⟨holdsFirst, holdsRest⟩)
        next => exact .pure (by simp)
  exact .skip fun tokens => upTo _

theorem ensures_parenthesized (ensures : Ensures dialect safe post item) :
    Ensures dialect safe post (parenthesized item) :=
  .skip fun _ => .step ensures fun _ holds => .skip fun _ => .pure holds

theorem ensures_after (word : Keyword) (ensures : Ensures dialect safe post item) :
    Ensures dialect safe (fun found => ∀ value ∈ found, post value) (after word item) := by
  refine .skip fun present => .ite (fun _ => ?_) fun _ => .pure (by simp)
  exact .step ensures fun value holds => .pure (by simpa using holds)

theorem ensures_listAfter (words : List Keyword) {items : Parser (List α)}
    (ensures : Ensures dialect safe (fun values => ∀ value ∈ values, post value) items) :
    Ensures dialect safe (fun values => ∀ value ∈ values, post value) (listAfter words items) :=
  .skip fun _ => .ite (fun _ => ensures) fun _ => .pure (by simp)

end Lists

instance {item : Parser α} [reads : Reads item] : Reads (commaSeparated item) :=
  Ensures.reads fun dialect safe => ensures_commaSeparated (reads.ensures dialect safe)

instance {item : Parser (Option α)} [reads : Reads item] : Reads (many item) :=
  Ensures.reads fun dialect safe =>
    ensures_many ((reads.ensures dialect safe).mono fun _ _ _ _ => trivial)

instance {item : Parser α} [Reads item] : Reads (parenthesized item) := by
  unfold parenthesized
  infer_instance

instance (word : Keyword) {item : Parser α} [Reads item] : Reads (after word item) := by
  unfold after
  infer_instance

instance (words : List Keyword) {items : Parser (List α)} [Reads items] :
    Reads (listAfter words items) := by
  unfold listAfter
  infer_instance

/-! ### What was read -/

theorem keyword_eq_ok_true {word : Keyword} {context : Context} {tokens rest : List Located}
    (read : keyword word context tokens = .ok (true, rest)) :
    ∃ located, tokens = located :: rest ∧ located.token.isKeyword word = true := by
  obtain ⟨_, _, ⟨⟩, later⟩ := bind_eq_ok.1 read
  split at later
  next located after =>
    split at later
    next spells =>
      obtain ⟨_, _, ⟨⟩, ⟨⟩⟩ := bind_eq_ok.1 later
      exact ⟨located, rfl, spells⟩
    next => cases later
  next => cases later

theorem expectSymbol_eq_ok {mark : Symbol} {context : Context} {tokens rest : List Located}
    (read : expectSymbol mark context tokens = .ok ((), rest)) :
    ∃ located, tokens = located :: rest ∧ located.token = .symbol mark := by
  obtain ⟨found, left, looked, later⟩ := bind_eq_ok.1 read
  cases found with
  | false =>
      obtain ⟨_, _, ⟨⟩, ⟨⟩⟩ := bind_eq_ok.1 later
  | true =>
      cases later
      obtain ⟨_, _, ⟨⟩, matched⟩ := bind_eq_ok.1 looked
      split at matched
      next symbol position after =>
        split at matched
        next same =>
          obtain ⟨_, _, ⟨⟩, ⟨⟩⟩ := bind_eq_ok.1 matched
          exact ⟨⟨.symbol symbol, position⟩, rfl, congrArg Token.symbol same⟩
        next => cases matched
      next => cases matched

end Parser

end Querent.Sql
