import Mathlib.Data.List.TakeWhile
import Querent.Proofs.Sql.Spelling

/-!
# What stands behind a token

A token is read from the start of a text, and only a little of what stands behind it is looked at.
`SameAhead` says that two texts look the same to such a glance: they are the same up to a place where
the first one has a blank or ends, and the second one has a space or ends.  What is read in front of
one text is then read in front of the other.
-/

namespace Querent.Sql.Lexer

/-- Whether texts are the same up to a place where one has a blank and the other a space, or ends. -/
inductive SameAhead : List Char → List Char → Prop where
  | pause {first second : List Char} (blank : ∀ c ∈ first.head?, Text.isBlank c = true)
      (space : ∀ c ∈ second.head?, c = ' ') : SameAhead first second
  | cons (c : Char) {first second : List Char} (same : SameAhead first second) :
      SameAhead (c :: first) (c :: second)

/-- Whether a text does not go on with characters of a kind. -/
def Stops (kind : Char → Bool) (text : List Char) : Prop :=
  ∀ c ∈ text.head?, kind c = false

variable {kind : Char → Bool} {letters rest behind behind' : List Char}

theorem takeWhile_append_of_stops (all : ∀ c ∈ letters, kind c = true) (stops : Stops kind rest) :
    (letters ++ rest).takeWhile kind = letters := by
  rw [List.takeWhile_append_of_pos all]
  cases rest with
  | nil => simp
  | cons c rest => simp [stops c rfl]

theorem takeWhile_of_stops (stops : Stops kind rest) : rest.takeWhile kind = [] :=
  takeWhile_append_of_stops (List.forall_mem_nil _) stops

theorem dropWhile_append_of_stops (all : ∀ c ∈ letters, kind c = true) (stops : Stops kind rest) :
    (letters ++ rest).dropWhile kind = rest := by
  rw [List.dropWhile_append_of_pos all]
  cases rest with
  | nil => rfl
  | cons c rest => simp [stops c rfl]

/-- A text parts into its first characters of a kind and a rest that does not go on with them. -/
theorem exists_stops (kind : Char → Bool) (text : List Char) :
    ∃ letters rest, text = letters ++ rest ∧ (∀ c ∈ letters, kind c = true) ∧ Stops kind rest := by
  refine ⟨text.takeWhile kind, text.dropWhile kind, List.takeWhile_append_dropWhile.symm,
    fun c member => List.mem_takeWhile_imp member, fun c first => ?_⟩
  have stopped := List.head?_dropWhile_not kind text
  rw [Option.mem_def.1 first] at stopped
  exact stopped

theorem Stops.or {other : Char → Bool} (first : Stops kind rest) (second : Stops other rest) :
    Stops (fun c => kind c || other c) rest :=
  fun c isFirst => Bool.or_eq_false_iff.2 ⟨first c isFirst, second c isFirst⟩

theorem Stops.left {other : Char → Bool} (stops : Stops (fun c => kind c || other c) rest) :
    Stops kind rest :=
  fun c isFirst => (Bool.or_eq_false_iff.1 (stops c isFirst)).1

theorem Stops.right {other : Char → Bool} (stops : Stops (fun c => kind c || other c) rest) :
    Stops other rest :=
  fun c isFirst => (Bool.or_eq_false_iff.1 (stops c isFirst)).2

theorem Stops.of_space (spaces : ∀ c ∈ rest.head?, c = ' ') (space : kind ' ' = false) :
    Stops kind rest :=
  fun c first => spaces c first ▸ space

theorem stops_of_ne {c : Char} (other : ∀ more, rest ≠ c :: more) : Stops (· == c) rest := by
  intro d first
  obtain ⟨more, rfl⟩ := List.head?_eq_some_iff.1 first
  exact beq_eq_false_iff_ne.2 fun same => other more (by rw [same])

theorem SameAhead.stops (same : SameAhead behind behind') (space : kind ' ' = false)
    (stops : Stops kind behind) : Stops kind behind' := by
  cases same with
  | pause _ spaces => exact .of_space spaces space
  | cons c _ => exact stops

/-! ## Readers -/

/-- Whether a reader looks, behind what it reads of a text, at no more than what is the same ahead. -/
def GlancesAt {α : Type} (read : List Char → Read α) (text : List Char) : Prop :=
  ∀ value behind, read text = some (value, behind) →
    ∃ piece, text = piece ++ behind ∧
      ∀ behind', SameAhead behind behind' → read (piece ++ behind') = some (value, behind')

theorem glancesAt_of_eq_none {α : Type} {read : List Char → Read α} {text : List Char}
    (fails : read text = none) : GlancesAt read text := by
  intro value behind found
  rw [fails] at found
  cases found

/-- A reader that takes some characters and then goes on as another one. -/
theorem GlancesAt.after {α β : Type} {read : List Char → Read β} {next : List Char → Read α}
    {text : List Char} (taken : List Char) (make : α → β) (glances : GlancesAt next text)
    (reads : ∀ rest, read (taken ++ rest) = (next rest).map fun (value, left) => (make value, left)) :
    GlancesAt read (taken ++ text) := by
  intro value behind found
  rw [reads, Option.map_eq_some_iff] at found
  obtain ⟨⟨inner, left⟩, known, same⟩ := found
  cases same
  obtain ⟨piece, rfl, again⟩ := glances _ _ known
  refine ⟨taken ++ piece, (List.append_assoc ..).symm, fun behind' same => ?_⟩
  rw [List.append_assoc, reads, again behind' same]
  rfl

/-- Behind a quote stands no second one, which would make the text go on. -/
theorem quotedText_of_stops {escapes : Bool} {quote c : Char} (quoted : (c == quote) = true)
    (stops : Stops (· == quote) behind) : quotedText escapes quote (c :: behind) = some ([], behind) := by
  cases behind with
  | nil => simp [quotedText, quoted]
  | cons d more =>
      have other : (d == quote) = false := stops d rfl
      simp [quotedText, quoted, other]

theorem glancesAt_quotedText {quote : Char} (escapes : Bool) (solid : (' ' == quote) = false)
    (text : List Char) : GlancesAt (quotedText escapes quote) text := by
  have closed {c : Char} {behind : List Char} (quoted : (c == quote) = true)
      (stops : Stops (· == quote) behind) : GlancesAt (quotedText escapes quote) (c :: behind) := by
    intro value behind found
    rw [quotedText_of_stops quoted stops] at found
    cases found
    exact ⟨[c], rfl, fun behind' same => quotedText_of_stops quoted (same.stops solid stops)⟩
  induction text using quotedText.induct escapes quote with
  | case1 => exact glancesAt_of_eq_none rfl
  | case2 c quoted second after doubled ih =>
      refine ih.after [c, second] (c :: ·) fun rest => ?_
      simp only [List.cons_append, List.nil_append, quotedText, quoted, doubled, if_true]
      rfl
  | case3 c quoted second after single =>
      refine closed quoted ?_
      rintro _ ⟨⟩
      simpa using single
  | case4 c quoted => exact closed quoted (by simp [Stops])
  | case5 c plain escaped letter after ih =>
      refine ih.after [c, letter] (backslashed letter :: ·) fun rest => ?_
      simp only [List.cons_append, List.nil_append, quotedText, plain, escaped, if_true,
        Bool.false_eq_true, if_false]
      rfl
  | case6 c plain escaped =>
      refine glancesAt_of_eq_none ?_
      simp only [quotedText, plain, escaped, if_true, Bool.false_eq_true, if_false]
  | case7 c after plain unescaped ih =>
      refine ih.after [c] (c :: ·) fun rest => ?_
      rw [List.singleton_append, quotedText.eq_def]
      simp only [plain, unescaped, Bool.false_eq_true, if_false]
      rfl

theorem glancesAt_escapedText (escaped : Bool) (text : List Char) :
    GlancesAt (escapedText escaped) text := by
  induction escaped, text using escapedText.induct with
  | case1 => exact glancesAt_of_eq_none (by simp [escapedText])
  | case2 c after ih => exact ih.after [c] (controlLetter c :: ·) fun _ => rfl
  | case3 after ih => exact ih.after ['\'', '\''] ('\'' :: ·) fun _ => rfl
  | case4 after single =>
      intro value behind found
      rw [escapedText.eq_4 _ single] at found
      cases found
      have stops : Stops (· == '\'') after := stops_of_ne single
      refine ⟨['\''], rfl, fun behind' same => escapedText.eq_4 _ ?_⟩
      rintro more rfl
      simpa using same.stops rfl stops '\'' rfl
  | case5 after ih =>
      refine ih.after ['\\'] id fun rest => ?_
      exact Option.map_id'.symm
  | case6 c after notDoubled notQuote notEscape ih =>
      refine ih.after [c] (c :: ·) fun rest => ?_
      exact escapedText.eq_6 c rest (fun _ isQuote _ => notQuote isQuote) notQuote notEscape

theorem glancesAt_dollarText (dollar : Bool) (text : List Char) :
    GlancesAt (dollarText dollar) text := by
  induction dollar, text using dollarText.induct with
  | case1 => exact glancesAt_of_eq_none (by simp [dollarText])
  | case2 c after closes =>
      have done (rest : List Char) : dollarText true (c :: rest) = some ([], rest) := by
        simp [dollarText, closes]
      intro value behind found
      rw [done] at found
      cases found
      exact ⟨[c], rfl, fun behind' _ => done behind'⟩
  | case3 c after plain ih =>
      refine ih.after [c] (fun value => '$' :: c :: value) fun rest => ?_
      simp [dollarText, plain, Read.cons, Function.comp_def]
  | case4 c after opens ih =>
      refine ih.after [c] id fun rest => ?_
      simp [dollarText, opens]
  | case5 c after plain ih =>
      refine ih.after [c] (c :: ·) fun rest => ?_
      simp [dollarText, plain, Read.cons]

theorem afterClosingTag_append {tag : String} {tags text behind : List Char}
    (closed : afterClosingTag tag tags text = .ok behind) :
    ∃ piece, text = piece ++ behind ∧
      ∀ rest, afterClosingTag tag tags (piece ++ rest) = .ok rest := by
  induction tags, text using afterClosingTag.induct with
  | case1 rest =>
      cases closed
      exact ⟨['$'], rfl, fun _ => rfl⟩
  | case2 rest other =>
      rw [afterClosingTag.eq_2 _ _ other] at closed
      cases closed
  | case3 => cases closed
  | case4 c letters d rest same ih =>
      rw [afterClosingTag, if_pos same] at closed
      obtain ⟨piece, rfl, again⟩ := ih closed
      refine ⟨d :: piece, rfl, fun rest => ?_⟩
      rw [List.cons_append, afterClosingTag, if_pos same, again]
  | case5 c letters d rest differs =>
      rw [afterClosingTag, if_neg differs] at closed
      cases closed

/-! ## Scanners -/

/-- The token that was scanned, if one was, and the text after it. -/
def token? : Scan → Read Token
  | .ok (some token, rest) => some (token, rest)
  | _ => none

@[simp]
theorem token?_found (token : Token) (rest : List Char) : token? (found token rest) = some (token, rest) :=
  rfl

@[simp]
theorem token?_mark (symbol : Symbol) (rest : List Char) :
    token? (mark symbol rest) = some (.symbol symbol, rest) :=
  rfl

@[simp]
theorem token?_skip (rest : List Char) : token? (.ok (none, rest)) = none :=
  rfl

@[simp]
theorem token?_error (fault : Fault) : token? (.error fault) = none :=
  rfl

theorem token?_eq_some_iff {scanned : Scan} {token : Token} {rest : List Char} :
    token? scanned = some (token, rest) ↔ scanned = .ok (some token, rest) := by
  unfold token?
  split
  next => simp
  next other =>
    constructor
    · rintro ⟨⟩
    · rintro rfl
      exact absurd rfl (other token rest)

theorem Stops.append {piece : List Char} (stops : Stops kind (piece ++ behind))
    (same : SameAhead behind behind') (space : kind ' ' = false) : Stops kind (piece ++ behind') := by
  cases piece with
  | nil => exact same.stops space stops
  | cons c piece => exact stops

namespace GlancesAt

variable {α : Type} {read next : List Char → Read α} {text : List Char}

/-- A reader that, unless a text goes on with some characters, is another one. -/
theorem of_stops (glances : GlancesAt next text) (space : kind ' ' = false) (stops : Stops kind text)
    (reads : ∀ rest, Stops kind rest → read rest = next rest) : GlancesAt read text := by
  intro value behind found
  rw [reads text stops] at found
  obtain ⟨piece, rfl, again⟩ := glances _ _ found
  refine ⟨piece, rfl, fun behind' same => ?_⟩
  rw [reads _ (stops.append same space), again behind' same]

theorem congr (glances : GlancesAt next text) (reads : ∀ rest, read rest = next rest) :
    GlancesAt read text := by
  rwa [funext reads]

/-- What takes nothing of a text looks at nothing behind it. -/
theorem found (value : α) (text : List Char) : GlancesAt (fun rest => some (value, rest)) text := by
  rintro _ _ ⟨⟩
  exact ⟨[], rfl, fun _ _ => rfl⟩

/-- A reader that takes all characters of a kind. -/
theorem span (space : kind ' ' = false) (make : List Char → α) (text : List Char) :
    GlancesAt (fun rest => some (make (rest.takeWhile kind), rest.drop (rest.takeWhile kind).length))
      text := by
  intro value behind found
  obtain ⟨letters, rest, rfl, all, stops⟩ := exists_stops kind text
  have reads {rest : List Char} (stops : Stops kind rest) :
      (some (make ((letters ++ rest).takeWhile kind),
        (letters ++ rest).drop ((letters ++ rest).takeWhile kind).length) : Read α) =
      some (make letters, rest) := by
    rw [takeWhile_append_of_stops all stops, List.drop_left]
  cases (reads stops).symm.trans found
  exact ⟨letters, rfl, fun behind' same => reads (same.stops space stops)⟩

end GlancesAt

variable (dialect : Dialect)

theorem continuesName_space : dialect.continuesName ' ' = false := by
  cases dialect <;> decide

theorem glancesAt_scanWord (first text : List Char) :
    GlancesAt (fun rest => token? (scanWord dialect first rest)) text :=
  .span (continuesName_space dialect) (fun letters => Token.word (.plain (first ++ letters))) text

theorem glancesAt_scanQuoted (form : QuotedForm) {quote : Char} (solid : (' ' == quote) = false)
    (start : List Char → List Char) (text : List Char) :
    GlancesAt (fun rest => token? (scanQuoted dialect form quote (start rest) rest)) text := by
  refine (glancesAt_quotedText (dialect = .mySql) solid text).after []
    (fun value => .quoted form (String.ofList value)) fun rest => ?_
  rw [List.nil_append, scanQuoted]
  cases quotedText (dialect = .mySql) quote rest <;> rfl

theorem glancesAt_scanQuotedName {quote : Char} (solid : (' ' == closingQuote quote) = false)
    (start : List Char → List Char) (text : List Char) :
    GlancesAt (fun rest => token? (scanQuotedName quote (start rest) rest)) text := by
  refine (glancesAt_quotedText false solid text).after []
    (fun value => .word (.quoted quote value)) fun rest => ?_
  rw [List.nil_append, scanQuotedName, quotedName]
  cases quotedText false (closingQuote quote) rest <;> rfl

/-- A sign starts a name only if a character that is no space follows it. -/
theorem glancesAt_scanNameSign (sign : Char) (first : List Char) (symbol : Symbol)
    (text : List Char) :
    GlancesAt (fun rest => token? (scanNameSign dialect sign first rest symbol)) text := by
  have alone (rest : List Char) (spaced : Stops (· != ' ') rest ∨ ¬ dialect.startsName sign) :
      token? (scanNameSign dialect sign first rest symbol) = some (.symbol symbol, rest) := by
    unfold scanNameSign
    split
    next => rfl
    next => rfl
    next c after other =>
      rcases spaced with spaced | nameless
      · exact absurd (by simpa using spaced c rfl) other
      · rw [if_neg nameless, token?_mark]
  by_cases starts : dialect.startsName sign
  · by_cases spaced : Stops (· != ' ') text
    · exact (GlancesAt.found _ text).of_stops rfl spaced fun rest stops => alone rest (.inl stops)
    · cases text with
      | nil => exact absurd (by simp [Stops]) spaced
      | cons c after =>
          have other : c ≠ ' ' := by simpa [Stops] using spaced
          refine (glancesAt_scanWord dialect (first ++ [c]) after).after [c] id fun rest => ?_
          rw [List.singleton_append, scanNameSign.eq_3 _ _ _ _ _ _ other, if_pos starts]
          exact Option.map_id'.symm
  · exact (GlancesAt.found _ text).congr fun rest => alone rest (.inr starts)

/-- A letter introduces a form of quoted text only if a quote follows it. -/
theorem glancesAt_scanIntroduced (letter : Char) (forms : List (Char × QuotedForm))
    (solid : forms.lookup ' ' = none) (text : List Char) :
    GlancesAt (fun rest => token? (scanIntroduced dialect letter forms rest)) text := by
  by_cases plain : Stops (fun c => (forms.lookup c).isSome) text
  · refine (glancesAt_scanWord dialect [letter] text).of_stops (by simp [solid]) plain
      fun rest stops => ?_
    unfold scanIntroduced
    split
    next quote body =>
      have none : forms.lookup quote = none := by simpa using stops quote rfl
      rw [none]
    next => rfl
  · cases text with
    | nil => exact absurd (by simp [Stops]) plain
    | cons quote body =>
        cases known : forms.lookup quote with
        | none => exact absurd (by rintro _ ⟨⟩; simp [known]) plain
        | some form =>
            have solid : (' ' == quote) = false := by
              rw [beq_eq_false_iff_ne]
              rintro rfl
              rw [solid] at known
              cases known
            refine (glancesAt_scanQuoted dialect form solid (quote :: ·) body).after [quote] id
              fun rest => ?_
            simp only [List.singleton_append, scanIntroduced, known]
            exact Option.map_id'.symm

/-! ### Dollar signs -/

/-- Whether a character continues the tag of a dollar-quoted text. -/
def continuesTag (c : Char) : Bool :=
  Text.isAlphanumeric c || c == '_'

/-- The dollar-quoted text after its tag and the dollar sign behind it. -/
def scanTagged (letters body : List Char) : Scan :=
  let tag := String.ofList letters
  match body.dropWhile (· != '$') with
  | '$' :: closing => do
    let after ← afterClosingTag tag letters closing
    let value := String.ofList (body.takeWhile (· != '$'))
    found (.dollarQuoted (if letters.isEmpty then none else some tag) value) after
  | _ => .error (.unterminatedDollarTag, [])

theorem scanDollar_of_stops {more : List Char} (all : ∀ c ∈ letters, continuesTag c = true)
    (stops : Stops (fun c => continuesTag c || c == '$') more) :
    scanDollar (letters ++ more) = found (.placeholder ("$" ++ String.ofList letters)) more := by
  have stopsTag : Stops continuesTag more := stops.left
  have noDollar {rest : List Char} : more ≠ '$' :: rest := by
    rintro rfl
    exact absurd (stops '$' rfl) (by decide)
  unfold scanDollar
  split
  next opens =>
    cases letters with
    | nil => exact absurd opens noDollar
    | cons c rest =>
        have isDollar := (List.cons.inj opens).1
        exact absurd (all c List.mem_cons_self) (by rw [isDollar]; decide)
  next =>
    extract_lets inTag taken tag
    have taken_eq : taken = letters := takeWhile_append_of_stops all stopsTag
    have left : (letters ++ more).dropWhile inTag = more := dropWhile_append_of_stops all stopsTag
    rw [left]
    split
    next => exact absurd rfl noDollar
    next => simp only [tag, taken_eq]

theorem scanDollar_of_tag {body : List Char} (all : ∀ c ∈ letters, continuesTag c = true)
    (some : letters ≠ []) : scanDollar (letters ++ '$' :: body) = scanTagged letters body := by
  have stops : Stops continuesTag ('$' :: body) := by
    rintro _ ⟨⟩
    decide
  unfold scanDollar
  split
  next opens =>
    obtain ⟨c, rest, rfl⟩ := List.exists_cons_of_ne_nil some
    have isDollar := (List.cons.inj opens).1
    exact absurd (all c List.mem_cons_self) (by rw [isDollar]; decide)
  next =>
    extract_lets inTag taken tag
    have taken_eq : taken = letters := takeWhile_append_of_stops all stops
    have left : (letters ++ '$' :: body).dropWhile inTag = '$' :: body :=
      dropWhile_append_of_stops all stops
    rw [left]
    simp only [tag, taken_eq]
    rfl

theorem scanTagged_of_plain {value closing : List Char} (plain : ∀ c ∈ value, (c != '$') = true) :
    scanTagged letters (value ++ '$' :: closing) =
      (afterClosingTag (String.ofList letters) letters closing).bind
        (found (.dollarQuoted (if letters.isEmpty then none else some (String.ofList letters))
          (String.ofList value))) := by
  have stops : Stops (· != '$') ('$' :: closing) := by
    rintro _ ⟨⟩
    rfl
  unfold scanTagged
  rw [takeWhile_append_of_stops plain stops, dropWhile_append_of_stops plain stops]
  rfl

theorem glancesAt_scanTagged (letters body : List Char) :
    GlancesAt (fun rest => token? (scanTagged letters rest)) body := by
  obtain ⟨value, rest, rfl, plain, stops⟩ := exists_stops (· != '$') body
  cases rest with
  | nil =>
      refine glancesAt_of_eq_none ?_
      unfold scanTagged
      rw [dropWhile_append_of_stops plain stops]
      rfl
  | cons c closing =>
      obtain rfl : c = '$' := by simpa using stops c rfl
      intro token behind read
      simp only [scanTagged_of_plain plain] at read
      cases closed : afterClosingTag (String.ofList letters) letters closing with
      | error fault =>
          rw [closed] at read
          cases read
      | ok after =>
          rw [closed] at read
          cases read
          obtain ⟨piece, rfl, again⟩ := afterClosingTag_append closed
          refine ⟨value ++ '$' :: piece, by simp, fun behind' _ => ?_⟩
          simp only [List.append_assoc, List.cons_append, scanTagged_of_plain plain, again]
          rfl

/-- A dollar sign starts a text up to two further ones, a text up to a tag, or a placeholder. -/
theorem glancesAt_scanDollar (text : List Char) :
    GlancesAt (fun rest => token? (scanDollar rest)) text := by
  obtain ⟨letters, more, rfl, all, stops⟩ := exists_stops continuesTag text
  by_cases ends : Stops (fun c => continuesTag c || c == '$') more
  · have placeholder : GlancesAt (fun rest => token? (scanDollar (letters ++ rest))) more :=
      (GlancesAt.found (Token.placeholder ("$" ++ String.ofList letters)) more).of_stops (by decide)
        ends fun rest stops => by rw [scanDollar_of_stops all stops, token?_found]
    exact placeholder.after letters id fun rest => Option.map_id'.symm
  · cases more with
    | nil => exact absurd (by simp [Stops]) ends
    | cons c body =>
        obtain rfl : c = '$' := by
          by_contra other
          refine ends ?_
          rintro _ ⟨⟩
          simp [stops c rfl, other]
        cases letters with
        | nil =>
            refine (glancesAt_dollarText false body).after ['$']
              (fun value => .dollarQuoted none (String.ofList value)) fun rest => ?_
            simp only [List.singleton_append, scanDollar]
            cases dollarText false rest <;> rfl
        | cons d letters =>
            have tagged : GlancesAt (fun rest => token? (scanDollar rest))
                ((d :: letters ++ ['$']) ++ body) :=
              (glancesAt_scanTagged (d :: letters) body).after (d :: letters ++ ['$']) id
                fun rest => by
                  rw [List.append_assoc, List.singleton_append, scanDollar_of_tag all (by simp)]
                  exact Option.map_id'.symm
            rwa [List.append_assoc] at tagged

end Querent.Sql.Lexer
