import Querent.Json.Decoder
import Querent.Proofs.Decimal.Digits

/-!
# Reading back what was written

The text of a record whose fields hold texts and whole numbers of 64 bits is read as a record with
the same fields: every escaped character is read as itself, every number from its digits, and every
field up to the comma or the brace after it.
-/

namespace Querent.Json

/-! ## Cursors -/

namespace Cursor

@[simp]
theorem advance_cons (c : Char) (rest : List Char) (place : Place) :
    advance ⟨c :: rest, place⟩ = ⟨rest, place.next c⟩ := rfl

theorem skip_length (text rest : List Char) (start : Place) :
    ∃ finish, skip text.length ⟨text ++ rest, start⟩ = ⟨rest, finish⟩ := by
  induction text generalizing start with
  | nil => exact ⟨start, rfl⟩
  | cons c more ih => exact ih (start.next c)

theorem skipGap_cons {c : Char} (solid : isGap c = false) (rest : List Char) (place : Place) :
    skipGap ⟨c :: rest, place⟩ = ⟨c :: rest, place⟩ := by
  unfold skipGap
  rw [List.takeWhile_cons_of_neg (by simp [solid])]
  rfl

end Cursor

/-! ## Texts -/

theorem hexDigit_spec : ∀ n : Fin 16, (hexDigit n.val).utf8Size = 1 ∧
    Text.isHexDigit (hexDigit n.val) = true ∧ Text.hexDigitValue (hexDigit n.val) = n.val := by
  decide

/-- A character that is written by its code is read from the digits of the code. -/
theorem readCode_hexDigits {code : Nat} (small : code < 256) (rest : List Char) (start : Place) :
    ∃ finish, readCode ⟨'0' :: '0' :: hexDigit (code / 16) :: hexDigit (code % 16) :: rest, start⟩ =
      .ok (Char.ofNat code, ⟨rest, finish⟩) := by
  obtain ⟨highSize, highHex, highValue⟩ := hexDigit_spec ⟨code / 16, by omega⟩
  obtain ⟨lowSize, lowHex, lowValue⟩ := hexDigit_spec ⟨code % 16, by omega⟩
  have zero : Text.hexDigitValue '0' = 0 := by decide
  have zeroHex : Text.isHexDigit '0' = true := by decide
  have zeroSize : '0'.utf8Size = 1 := by decide
  have value : hexValue ['0', '0', hexDigit (code / 16), hexDigit (code % 16)] = code := by
    simp only [hexValue, List.foldl_cons, List.foldl_nil, zero, highValue, lowValue]
    omega
  obtain ⟨finish, skipped⟩ := Cursor.skip_length
    ['0', '0', hexDigit (code / 16), hexDigit (code % 16)] rest start
  have hex : readHex ⟨'0' :: '0' :: hexDigit (code / 16) :: hexDigit (code % 16) :: rest, start⟩ =
      .ok (code, ⟨rest, finish⟩) := by
    simp only [List.length_cons, List.length_nil, Nat.zero_add, Nat.reduceAdd, List.cons_append,
      List.nil_append] at skipped
    simp [readHex, highSize, lowSize, highHex, lowHex, zeroHex, zeroSize, value, skipped]
  refine ⟨finish, ?_⟩
  have low : ¬ 0xDC00 ≤ code := by omega
  have high : ¬ 0xD800 ≤ code := by omega
  simp [readCode, hex, low, high, bind, Except.bind]
  rfl

/-- A character in a text is written as itself, or after a backslash and read back from there. -/
theorem escapeChar_cases (c : Char) :
    (escapeChar c = [c] ∧ c ≠ '"' ∧ c ≠ '\\' ∧ 32 ≤ c.toNat) ∨
      ∃ more, escapeChar c = '\\' :: more ∧
        ∀ rest start, ∃ finish, readEscape ⟨more ++ rest, start⟩ = .ok (c, ⟨rest, finish⟩) := by
  unfold escapeChar
  split
  next => exact .inr ⟨['"'], rfl, fun rest start => ⟨_, rfl⟩⟩
  next => exact .inr ⟨['\\'], rfl, fun rest start => ⟨_, rfl⟩⟩
  next => exact .inr ⟨['n'], rfl, fun rest start => ⟨_, rfl⟩⟩
  next => exact .inr ⟨['r'], rfl, fun rest start => ⟨_, rfl⟩⟩
  next => exact .inr ⟨['t'], rfl, fun rest start => ⟨_, rfl⟩⟩
  next noQuote noBackslash _ _ _ =>
    have same : Char.ofNat c.toNat = c := Char.ofNat_toNat c
    split
    next backspace =>
      rw [beq_iff_eq.1 backspace] at same
      exact .inr ⟨['b'], rfl, fun rest start => ⟨_, by rw [← same]; rfl⟩⟩
    next =>
      split
      next feed =>
        rw [beq_iff_eq.1 feed] at same
        exact .inr ⟨['f'], rfl, fun rest start => ⟨_, by rw [← same]; rfl⟩⟩
      next =>
        split
        next control =>
          refine .inr ⟨_, rfl, fun rest start => ?_⟩
          have small : c.toNat < 256 := by omega
          obtain ⟨finish, read⟩ := readCode_hexDigits small rest (start.next 'u')
          rw [same] at read
          exact ⟨finish, read⟩
        next printable => exact .inl ⟨rfl, noQuote, noBackslash, Nat.le_of_not_lt printable⟩

theorem readTextFrom_escaped {steps : Nat} {text : List Char} (enough : text.length < steps)
    (read rest : List Char) (start : Place) :
    ∃ finish, readTextFrom steps read ⟨text.flatMap escapeChar ++ '"' :: rest, start⟩ =
      .ok (String.ofList (read.reverse ++ text), ⟨rest, finish⟩) := by
  induction text generalizing steps read start with
  | nil =>
    obtain ⟨steps, rfl⟩ : ∃ before, steps = before + 1 := ⟨steps - 1, by omega⟩
    exact ⟨start.next '"', by simp [readTextFrom]⟩
  | cons c text ih =>
    obtain ⟨steps, rfl⟩ : ∃ before, steps = before + 1 := ⟨steps - 1, by omega⟩
    have enough : text.length < steps := Nat.lt_of_succ_lt_succ enough
    rw [List.flatMap_cons, List.append_assoc]
    rcases escapeChar_cases c with ⟨plain, noQuote, noBackslash, printable⟩ | ⟨more, escaped, read_more⟩
    · obtain ⟨finish, done⟩ := ih enough (c :: read) (start.next c)
      refine ⟨finish, ?_⟩
      rw [plain]
      simp [readTextFrom, noQuote, noBackslash, Nat.not_lt.2 printable, done]
    · obtain ⟨middle, first⟩ := read_more (text.flatMap escapeChar ++ '"' :: rest) (start.next '\\')
      obtain ⟨finish, done⟩ := ih enough (c :: read) middle
      refine ⟨finish, ?_⟩
      rw [escaped]
      simp [readTextFrom, first, done]

theorem length_le_flatMap_escapeChar (text : List Char) :
    text.length ≤ (text.flatMap escapeChar).length := by
  induction text with
  | nil => exact Nat.le_refl _
  | cons c text ih =>
    rw [List.flatMap_cons, List.length_append, List.length_cons]
    have positive : 1 ≤ (escapeChar c).length := by
      rcases escapeChar_cases c with ⟨plain, _⟩ | ⟨more, escaped, _⟩
      · rw [plain]; exact Nat.le_refl 1
      · rw [escaped]; exact Nat.succ_pos _
    omega

/-- A text between quotes is read back after its opening quote. -/
theorem readText_quoted (text : String) (rest : List Char) (start : Place) :
    ∃ finish, readText ⟨text.toList.flatMap escapeChar ++ '"' :: rest, start⟩ =
      .ok (text, ⟨rest, finish⟩) := by
  have long := length_le_flatMap_escapeChar text.toList
  have enough : text.toList.length < (text.toList.flatMap escapeChar ++ '"' :: rest).length + 1 := by
    rw [List.length_append]
    omega
  obtain ⟨finish, read⟩ := readTextFrom_escaped enough [] rest start
  refine ⟨finish, ?_⟩
  rw [List.reverse_nil, List.nil_append, String.ofList_toList] at read
  exact read

/-! ## Numbers -/

theorem takeDigits_eq {significand : Nat} {text : List Char}
    (all : ∀ c ∈ text, Text.isAsciiDigit c = true)
    (fits : text.foldl (fun n c => n * 10 + Text.digitValue c) significand ≤ largestWord) :
    takeDigits significand text =
      (text.foldl (fun n c => n * 10 + Text.digitValue c) significand, text.length) := by
  induction text generalizing significand with
  | nil => rfl
  | cons c text ih =>
    have digit := all c List.mem_cons_self
    have later := ih (fun d member => all d (List.mem_cons_of_mem c member)) fits
    have next : significand * 10 + Text.digitValue c ≤ largestWord :=
      Nat.le_trans (Decimal.le_foldl_digits _ text) fits
    simp [takeDigits, digit, next, later]

/-- A whole number of 64 bits is read from its digits up to the comma or the brace after it. -/
theorem readNumber_digits {n : Nat} (fits : n ≤ largestWord) {c : Char} (ends : c = ',' ∨ c = '\x7d')
    (rest : List Char) (start : Place) :
    ∃ finish, readNumber false ⟨Decimal.digits n ++ c :: rest, start⟩ =
      .ok (.integer n, ⟨c :: rest, finish⟩) := by
  have all : ∀ d ∈ Decimal.digits n, Text.isAsciiDigit d = true := fun _ member =>
    Decimal.isAsciiDigit_of_mem_digits member
  have value : (Decimal.digits n).foldl (fun n c => n * 10 + Text.digitValue c) 0 = n :=
    Decimal.ofDigits_digits n
  have taken : takeDigits 0 (Decimal.digits n) = (n, (Decimal.digits n).length) := by
    rw [takeDigits_eq all (value.symm ▸ fits), value]
  have notDigit : Text.isAsciiDigit c = false := by
    rcases ends with rfl | rfl <;> decide
  have counted : countDigits (Decimal.digits n ++ c :: rest) = (Decimal.digits n).length := by
    rw [countDigits, List.takeWhile_append_of_pos all,
      List.takeWhile_cons_of_neg (by simp [notDigit]), List.append_nil]
  obtain ⟨finish, skipped⟩ := Cursor.skip_length (Decimal.digits n) (c :: rest) start
  refine ⟨finish, ?_⟩
  cases text : Decimal.digits n with
  | nil => exact absurd (Decimal.length_digits_pos n) (by simp [text])
  | cons first more =>
    have digit : Text.isAsciiDigit first = true := all first (text ▸ List.mem_cons_self)
    have whole : (if first == '0' then 1 else countDigits (Decimal.digits n ++ c :: rest)) =
        (Decimal.digits n).length := by
      split
      next zero =>
        obtain rfl := beq_iff_eq.1 zero
        rw [text, Decimal.digits_eq_zero_cons text]
        rfl
      next => exact counted
    rw [text] at whole taken skipped
    simp only [List.cons_append] at whole skipped ⊢
    have kept : (first :: (more ++ c :: rest)).take (first :: more).length = first :: more :=
      List.take_left
    simp only [readNumber, digit, whole, kept, taken, skipped, Bool.not_true, Bool.false_eq_true,
      if_false, Int.sub_self, beq_self_eq_true, if_true]
    rcases ends with rfl | rfl
    · exact if_neg (by simp [notDigit])
    · exact if_neg (by simp [notDigit])

/-! ## Values -/

/-- Whether a document is a text or a whole number of 64 bits. -/
def IsPlain : Json → Prop
  | .string _ => True
  | .integer value => 0 ≤ value ∧ value.toNat ≤ largestWord
  | _ => False

theorem readValue_digit {first : Char} (digit : Text.isAsciiDigit first = true)
    (steps depth : Nat) (more : List Char) (start : Place) :
    readValue (steps + 1) depth ⟨first :: more, start⟩ =
      leafOfRead (readNumber false ⟨first :: more, start⟩) := by
  have other {c : Char} (letter : Text.isAsciiDigit c = false) : first ≠ c := by
    rintro rfl
    rw [letter] at digit
    cases digit
  have solid : Cursor.isGap first = false := by
    simp [Cursor.isGap, other (c := ' ') rfl, other (c := '\n') rfl, other (c := '\t') rfl,
      other (c := '\r') rfl]
  unfold readValue
  rw [Cursor.skipGap_cons solid]
  simp [digit, other (c := 'n') rfl, other (c := 't') rfl, other (c := 'f') rfl,
    other (c := '"') rfl, other (c := '-') rfl, other (c := '[') rfl, other (c := '\x7b') rfl]

theorem readValue_plain {value : Json} (plain : value.IsPlain) {c : Char}
    (ends : c = ',' ∨ c = '\x7d') (steps depth : Nat) (rest : List Char) (start : Place) :
    ∃ finish, readValue (steps + 1) depth ⟨value.render.toList ++ c :: rest, start⟩ =
      (.leaf value (some finish), ⟨c :: rest, finish⟩) := by
  cases value with
  | string text =>
    obtain ⟨finish, read⟩ := readText_quoted text (c :: rest) (start.next '"')
    refine ⟨finish, ?_⟩
    have written : (Json.string text).render.toList ++ c :: rest =
        '"' :: (text.toList.flatMap escapeChar ++ '"' :: c :: rest) := by
      simp [render, quoted]
    rw [written]
    unfold readValue
    rw [Cursor.skipGap_cons (by decide)]
    simp [read]
  | integer value =>
    obtain ⟨n, rfl⟩ := Int.eq_ofNat_of_zero_le plain.1
    obtain ⟨finish, read⟩ := readNumber_digits (n := n) plain.2 ends rest start
    refine ⟨finish, ?_⟩
    have written : (Json.integer n).render.toList = Decimal.digits n := by
      simp only [render, Int.toString_eq_repr]
      exact String.toList_ofList
    rw [written]
    cases text : Decimal.digits n with
    | nil => exact absurd (Decimal.length_digits_pos n) (by simp [text])
    | cons first more =>
      have digit : Text.isAsciiDigit first = true :=
        Decimal.isAsciiDigit_of_mem_digits (n := n) (text ▸ List.mem_cons_self)
      rw [text] at read
      rw [List.cons_append] at read ⊢
      rw [readValue_digit digit, read]
      rfl
  | null => exact plain.elim
  | bool value => exact plain.elim
  | float value => exact plain.elim
  | array items => exact plain.elim
  | object fields => exact plain.elim

/-! ## Records -/

/-- Whether the fields of a record as it is met are the given documents without parts, in order. -/
def Entries.Shows : Entries → Fields → Prop
  | .done _, [] => True
  | .entry name _ (.leaf value _) rest, (name', value') :: fields =>
    name = name' ∧ value = value' ∧ rest.Shows fields
  | _, _ => False

theorem Entries.shows_nil {entries : Entries} (shows : entries.Shows []) :
    ∃ finish, entries = .done finish := by
  cases entries with
  | done finish => exact ⟨finish, rfl⟩
  | entry name afterName node rest => cases node <;> exact shows.elim
  | broken fault place => exact shows.elim

theorem Entries.shows_cons {entries : Entries} {name : String} {value : Json} {fields : Fields}
    (shows : entries.Shows ((name, value) :: fields)) :
    ∃ afterName finish rest, entries = .entry name afterName (.leaf value finish) rest ∧
      rest.Shows fields := by
  cases entries with
  | done finish => exact shows.elim
  | entry name' afterName node rest =>
    cases node with
    | leaf value' finish =>
      obtain ⟨rfl, rfl, shows⟩ := shows
      exact ⟨afterName, finish, rest, rfl, shows⟩
    | array start items => exact shows.elim
    | object start entries => exact shows.elim
    | broken fault place => exact shows.elim
  | broken fault place => exact shows.elim

/-- The characters of a field. -/
def fieldChars (field : String × Json) : List Char :=
  '"' :: (field.1.toList.flatMap escapeChar ++ '"' :: ':' :: field.2.render.toList)

/-- The characters of fields that each have a comma before them. -/
def laterChars (fields : Fields) : List Char :=
  fields.flatMap fun field => ',' :: fieldChars field

theorem readEntries_done (steps depth : Nat) (isFirst : Bool) (rest : List Char) (start : Place) :
    readEntries (steps + 1) depth isFirst ⟨'\x7d' :: rest, start⟩ =
      (.done (some (start.next '\x7d')), ⟨rest, start.next '\x7d'⟩) := by
  unfold readEntries
  rw [Cursor.skipGap_cons (by decide)]
  rfl

/-- A field after a comma is read as the first one. -/
theorem readEntries_comma (steps depth : Nat) (rest : List Char) (start : Place) :
    readEntries (steps + 1) depth false ⟨',' :: '"' :: rest, start⟩ =
      readEntries (steps + 1) depth true ⟨'"' :: rest, start.next ','⟩ := by
  unfold readEntries
  rw [Cursor.skipGap_cons (by decide), Cursor.skipGap_cons (by decide)]
  simp [Cursor.skipGap_cons (c := '"') (by decide)]

/-- What follows a field is read after it. -/
theorem readEntries_field {field : String × Json} (plain : field.2.IsPlain) {c : Char}
    (ends : c = ',' ∨ c = '\x7d') (steps depth : Nat) (rest : List Char) (start : Place) :
    ∃ afterName finish, ∀ more last,
      readEntries (steps + 1) depth false ⟨c :: rest, finish⟩ = (more, last) →
        readEntries (steps + 2) depth true ⟨fieldChars field ++ c :: rest, start⟩ =
          (.entry field.1 (some afterName) (.leaf field.2 (some finish)) more, last) := by
  obtain ⟨afterName, name⟩ := readText_quoted field.1 (':' :: (field.2.render.toList ++ c :: rest))
    (start.next '"')
  obtain ⟨finish, value⟩ := readValue_plain plain ends steps depth rest (afterName.next ':')
  refine ⟨afterName, finish, fun more last later => ?_⟩
  have written : fieldChars field ++ c :: rest = '"' :: (field.1.toList.flatMap escapeChar ++
      '"' :: ':' :: (field.2.render.toList ++ c :: rest)) := by
    simp [fieldChars]
  have colon := Cursor.skipGap_cons (c := ':') (by decide) (field.2.render.toList ++ c :: rest)
    afterName
  rw [written]
  unfold readEntries
  rw [Cursor.skipGap_cons (by decide)]
  simp [name, colon, value, later]

theorem readEntries_fields {field : String × Json} {fields : Fields}
    (plain : ∀ other ∈ field :: fields, other.2.IsPlain) {steps : Nat}
    (enough : fields.length + 2 ≤ steps) (depth : Nat) (rest : List Char) (start : Place) :
    ∃ entries finish, readEntries steps depth true
        ⟨fieldChars field ++ (laterChars fields ++ '\x7d' :: rest), start⟩ =
          (entries, ⟨rest, finish⟩) ∧ entries.Shows (field :: fields) := by
  induction fields generalizing field steps start with
  | nil =>
    obtain ⟨steps, rfl⟩ : ∃ before, steps = before + 2 := ⟨steps - 2, by omega⟩
    have first := plain field List.mem_cons_self
    obtain ⟨afterName, finish, read⟩ := readEntries_field first (.inr rfl) steps depth rest start
    exact ⟨_, _, read _ _ (readEntries_done ..), rfl, rfl, trivial⟩
  | cons next fields ih =>
    rw [List.length_cons] at enough
    obtain ⟨steps, rfl⟩ : ∃ before, steps = before + 2 := ⟨steps - 2, by omega⟩
    have first := plain field List.mem_cons_self
    obtain ⟨afterName, finish, read⟩ := readEntries_field first (.inl rfl) steps depth
      (fieldChars next ++ (laterChars fields ++ '\x7d' :: rest)) start
    have left : fields.length + 2 ≤ steps + 1 := by omega
    obtain ⟨entries, last, later, shows⟩ := ih
      (fun other member => plain other (List.mem_cons_of_mem field member)) left (finish.next ',')
    have comma : readEntries (steps + 1) depth false
        ⟨',' :: (fieldChars next ++ (laterChars fields ++ '\x7d' :: rest)), finish⟩ =
          (entries, ⟨rest, last⟩) := (readEntries_comma ..).trans later
    have written : laterChars (next :: fields) ++ '\x7d' :: rest =
        ',' :: (fieldChars next ++ (laterChars fields ++ '\x7d' :: rest)) := by
      simp [laterChars]
    rw [written]
    exact ⟨_, last, read _ _ comma, rfl, rfl, shows⟩

theorem toList_intercalate_renderFields (field : String × Json) (fields : Fields) :
    (",".intercalate (renderFields (field :: fields))).toList =
      fieldChars field ++ laterChars fields := by
  have first (field : String × Json) :
      (quoted field.1 ++ ":" ++ field.2.render).toList = fieldChars field := by
    simp [quoted, fieldChars]
  induction fields generalizing field with
  | nil =>
    rw [renderFields, renderFields, String.intercalate_singleton, first]
    exact (List.append_nil _).symm
  | cons next fields ih =>
    have later := ih next
    rw [renderFields] at later
    rw [renderFields, renderFields, String.intercalate_cons_cons, String.toList_append,
      String.toList_append, first, later]
    simp [laterChars]

theorem length_le_laterChars (fields : Fields) : fields.length ≤ (laterChars fields).length := by
  induction fields with
  | nil => exact Nat.le_refl _
  | cons field fields ih =>
    rw [laterChars, List.flatMap_cons, List.length_append, List.length_cons, List.length_cons]
    rw [laterChars] at ih
    omega

/-- The text of a record of texts and whole numbers is read as a record with the same fields. -/
theorem read_render_object {fields : Fields} (plain : ∀ field ∈ fields, field.2.IsPlain) :
    ∃ start entries, Json.read (Json.object fields).render = ⟨.object start entries, none⟩ ∧
      entries.Shows fields := by
  have written : (Json.object fields).render.toList =
      '\x7b' :: ((",".intercalate (renderFields fields)).toList ++ ['\x7d']) := by
    simp [render]
  obtain ⟨entries, finish, read, shows⟩ : ∃ entries finish,
      readEntries (2 * (Json.object fields).render.length + 1) 126 true
        ⟨(",".intercalate (renderFields fields)).toList ++ ['\x7d'], Place.start.next '\x7b'⟩ =
          (entries, ⟨[], finish⟩) ∧ entries.Shows fields := by
    cases fields with
    | nil => exact ⟨_, _, readEntries_done .., trivial⟩
    | cons field fields =>
      have long := length_le_laterChars fields
      rw [← String.length_toList, written]
      rw [toList_intercalate_renderFields, List.append_assoc]
      apply readEntries_fields plain
      simp only [List.length_cons, List.length_append]
      omega
  refine ⟨some Place.start, entries, ?_, shows⟩
  have value : readValue (2 * (Json.object fields).render.length + 2) deepest
      (Cursor.ofText (Json.object fields).render) =
        (.object (some Place.start) entries, ⟨[], finish⟩) := by
    rw [Cursor.ofText, written]
    unfold readValue
    rw [Cursor.skipGap_cons (by decide)]
    simp only [deepest, Cursor.advance_cons, read]
  rw [Json.read, value]
  rfl

end Querent.Json
