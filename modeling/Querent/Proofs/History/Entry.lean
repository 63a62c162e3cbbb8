import Querent.History.Basic
import Querent.Proofs.Calendar.Reading
import Querent.Proofs.Json.Decoding
import Querent.Proofs.Json.Magnitude
import Querent.Proofs.Json.Reading

/-!
# Entries as documents

An entry is written as a document and as the text of one, and both are decoded to the entry again.
-/

namespace Querent.HistoryEntry

open Json (Decoder)

/-- The fields of an entry in the order of their names. -/
def fields (entry : HistoryEntry) : Json.Fields :=
  ("createdAt", .string entry.createdAt.text) ::
    (Json.optionalField "errorMessage" (entry.errorMessage.map .string) ++
      [("executionTimeMs", .integer entry.milliseconds), ("prompt", .string entry.prompt),
        ("resultCount", .integer entry.resultCount), ("sqlQuery", .string entry.sql),
        ("status", .string entry.status.name)])

theorem json_eq_object (entry : HistoryEntry) : entry.json = .object entry.fields := by
  cases none : entry.errorMessage <;>
    simp only [json, fields, none, Json.ofFields, Json.sortFields, Json.insertField,
      Json.optionalField, Option.map_none, Option.map_some, List.append_nil, List.nil_append,
      List.cons_append, List.foldl_cons, List.foldl_nil, String.reduceLT, String.reduceBEq,
      Bool.false_eq_true, ↓reduceIte]

theorem decode_status (status : AttemptStatus) (finish : Option Json.Place) :
    statusDecoder (.leaf (.string status.name) finish) = .ok status := by
  cases status <;> rfl

theorem decode_createdAt {moment : Calendar.Moment} (plain : moment.HasPlainYear)
    (finish : Option Json.Place) :
    momentDecoder (.leaf (.string moment.text) finish) = .ok moment := by
  rw [momentDecoder, Calendar.Moment.read_text plain]

theorem decode_natural (type : String) (n : Nat) (finish : Option Json.Place) :
    Decoder.natural type (.leaf (.integer n) finish) = .ok n := by
  simp [Decoder.natural]

/-- The fields after the time and the message of an entry are the same for all entries. -/
theorem entriesInto_of_shows_common {entry : HistoryEntry} {entries : Json.Entries}
    (shows : entries.Shows [("executionTimeMs", .integer entry.milliseconds),
      ("prompt", .string entry.prompt), ("resultCount", .integer entry.resultCount),
      ("sqlQuery", .string entry.sql), ("status", .string entry.status.name)])
    {seen : List String} (names : seen = ["createdAt"] ∨ seen = ["errorMessage", "createdAt"]) :
    Decoder.entriesInto shape
      { shape.start with createdAt := some entry.createdAt, errorMessage := entry.errorMessage }
      seen entries = .ok entry := by
  refine Decoder.entriesInto_of_shows_cons shows rfl (by rcases names with rfl | rfl <;> rfl)
    (fun finish => Decoder.required_decode_eq_ok.2 ⟨_, decode_natural "u64" _ finish, rfl⟩)
    fun _ shows => ?_
  refine Decoder.entriesInto_of_shows_cons shows rfl (by rcases names with rfl | rfl <;> rfl)
    (fun _ => Decoder.required_decode_eq_ok.2 ⟨_, rfl, rfl⟩) fun _ shows => ?_
  refine Decoder.entriesInto_of_shows_cons shows rfl (by rcases names with rfl | rfl <;> rfl)
    (fun finish => Decoder.required_decode_eq_ok.2 ⟨_, decode_natural "usize" _ finish, rfl⟩)
    fun _ shows => ?_
  refine Decoder.entriesInto_of_shows_cons shows rfl (by rcases names with rfl | rfl <;> rfl)
    (fun _ => Decoder.required_decode_eq_ok.2 ⟨_, rfl, rfl⟩) fun _ shows => ?_
  refine Decoder.entriesInto_of_shows_cons shows rfl (by rcases names with rfl | rfl <;> rfl)
    (fun finish => Decoder.required_decode_eq_ok.2 ⟨_, decode_status _ finish, rfl⟩)
    fun _ shows => ?_
  exact Decoder.entriesInto_of_shows_nil shows rfl

/-- A record that shows the fields of an entry is decoded to the entry. -/
theorem entriesInto_of_shows {entry : HistoryEntry} (plain : entry.createdAt.HasPlainYear)
    {entries : Json.Entries} (shows : entries.Shows entry.fields) :
    Decoder.entriesInto shape shape.start [] entries = .ok entry := by
  refine Decoder.entriesInto_of_shows_cons shows rfl rfl
    (fun finish => Decoder.required_decode_eq_ok.2 ⟨_, decode_createdAt plain finish, rfl⟩)
    fun _ shows => ?_
  cases message : entry.errorMessage with
  | none =>
    rw [message] at shows
    have common := entriesInto_of_shows_common shows (.inl rfl)
    rwa [message] at common
  | some text =>
    rw [message] at shows
    refine Decoder.entriesInto_of_shows_cons shows rfl rfl
      (fun _ => Decoder.required_decode_eq_ok.2 ⟨some text, rfl, rfl⟩) fun _ shows => ?_
    have common := entriesInto_of_shows_common shows (.inr rfl)
    rwa [message] at common

/-! ## Encoding and decoding -/

/-- The fields of an entry hold texts and its two numbers. -/
theorem cases_of_mem_fields {entry : HistoryEntry} {field : String × Json}
    (member : field ∈ entry.fields) :
    (∃ text, field.2 = .string text) ∨ field.2 = .integer entry.resultCount ∨
      field.2 = .integer entry.milliseconds := by
  cases message : entry.errorMessage <;>
    simp only [fields, Json.optionalField, message, Option.map, List.nil_append, List.cons_append,
      List.mem_cons, List.not_mem_nil, or_false] at member
  all_goals
    rcases member with rfl | rfl | rfl | rfl | rfl | rfl | rfl <;> simp

theorem decode_json {entry : HistoryEntry} (plain : entry.createdAt.HasPlainYear) :
    decode entry.json = .ok entry := by
  rw [json_eq_object]
  refine entriesInto_of_shows plain (Json.Entries.shows_ofList fun field member => ?_)
  obtain ⟨text, value⟩ | value | value := cases_of_mem_fields member <;> rw [value] <;> rfl

theorem decodeText_render_json {entry : HistoryEntry} (plain : entry.createdAt.HasPlainYear)
    (rows : entry.resultCount ≤ Json.largestWord) (time : entry.milliseconds ≤ Json.largestWord) :
    Json.decodeText (Decoder.record shape) entry.json.render = .ok entry := by
  have all : ∀ field ∈ entry.fields, field.2.IsPlain := by
    intro field member
    obtain ⟨text, value⟩ | value | value := cases_of_mem_fields member <;> rw [value]
    · trivial
    · exact ⟨Int.natCast_nonneg _, rows⟩
    · exact ⟨Int.natCast_nonneg _, time⟩
  obtain ⟨start, entries, read, shows⟩ := Json.read_render_object all
  rw [json_eq_object, Json.decodeText, read]
  simp only [Decoder.record, entriesInto_of_shows plain shows]

/-! ## Where the values of a decoded entry come from -/

/-- Whether a value, if there is one, is decoded from a field of a record. -/
def ComesFrom {β : Type} (entries : Json.Entries) (name : String) (decoder : Decoder β)
    (value : Option β) : Prop :=
  ∀ v, value = some v → ∃ node, (name, node) ∈ entries.fields ∧ decoder node = .ok v

/-- Whether the numbers and the time that are known so far come from the fields of a record. -/
structure Draft.ComesFrom (entries : Json.Entries) (draft : Draft) : Prop where
  resultCount : HistoryEntry.ComesFrom entries "resultCount" (Decoder.natural "usize") draft.resultCount
  milliseconds :
    HistoryEntry.ComesFrom entries "executionTimeMs" (Decoder.natural "u64") draft.milliseconds
  createdAt : HistoryEntry.ComesFrom entries "createdAt" momentDecoder draft.createdAt

theorem finish_eq_ok {draft : Draft} {entry : HistoryEntry} (finished : shape.finish draft = .ok entry) :
    draft.resultCount = some entry.resultCount ∧ draft.milliseconds = some entry.milliseconds ∧
      draft.createdAt = some entry.createdAt := by
  have step {β : Type} {name : String} {value : Option β} {next : β → Except String HistoryEntry}
      (done : (Decoder.need name value >>= next) = .ok entry) :
      ∃ v, value = some v ∧ next v = .ok entry := by
    cases value with
    | none => cases done
    | some v => exact ⟨v, rfl, done⟩
  obtain ⟨_, _, finished⟩ := step finished
  obtain ⟨_, _, finished⟩ := step finished
  obtain ⟨_, resultCount, finished⟩ := step finished
  obtain ⟨_, milliseconds, finished⟩ := step finished
  obtain ⟨_, _, finished⟩ := step finished
  obtain ⟨_, createdAt, finished⟩ := step finished
  obtain rfl := Except.ok.inj finished
  exact ⟨resultCount, milliseconds, createdAt⟩

/-- A field changes the values known so far only by what it holds. -/
theorem comesFrom_change {entries : Json.Entries} {field : Decoder.Field Draft}
    (known : field ∈ shape.fields) {node : Json.Node} (member : (field.name, node) ∈ entries.fields)
    {change : Draft → Draft} (decoded : field.decode node = .ok change) {draft : Draft}
    (before : draft.ComesFrom entries) : (change draft).ComesFrom entries := by
  obtain ⟨resultCount, milliseconds, createdAt⟩ := before
  have found {β : Type} {name : String} {decoder : Decoder β} {value : β}
      (member : (name, node) ∈ entries.fields) (read : decoder node = .ok value) :
      ComesFrom entries name decoder (some value) := by
    rintro _ ⟨⟩
    exact ⟨node, member, read⟩
  simp only [shape, List.mem_cons, List.not_mem_nil, or_false] at known
  rcases known with rfl | rfl | rfl | rfl | rfl | rfl | rfl <;>
    obtain ⟨value, read, rfl⟩ := Decoder.required_decode_eq_ok.1 decoded
  · exact ⟨resultCount, milliseconds, createdAt⟩
  · exact ⟨resultCount, milliseconds, createdAt⟩
  · exact ⟨found member read, milliseconds, createdAt⟩
  · exact ⟨resultCount, found member read, createdAt⟩
  · exact ⟨resultCount, milliseconds, createdAt⟩
  · exact ⟨resultCount, milliseconds, createdAt⟩
  · exact ⟨resultCount, milliseconds, found member read⟩

theorem comesFrom_of_decoded {entries : Json.Entries} {entry : HistoryEntry}
    (decoded : Decoder.entriesInto shape shape.start [] entries = .ok entry) :
    (∃ node, ("resultCount", node) ∈ entries.fields ∧
        Decoder.natural "usize" node = .ok entry.resultCount) ∧
      (∃ node, ("executionTimeMs", node) ∈ entries.fields ∧
        Decoder.natural "u64" node = .ok entry.milliseconds) ∧
      ∃ node, ("createdAt", node) ∈ entries.fields ∧ momentDecoder node = .ok entry.createdAt := by
  have unknown {β : Type} {name : String} {decoder : Decoder β} :
      ComesFrom entries name decoder none := nofun
  have start : shape.start.ComesFrom entries := ⟨unknown, unknown, unknown⟩
  have kept : ∀ field ∈ shape.fields, ∀ node, (field.name, node) ∈ entries.fields →
      ∀ change, field.decode node = .ok change →
        ∀ draft : Draft, draft.ComesFrom entries → (change draft).ComesFrom entries :=
    fun _ known _ member _ decoded _ before => comesFrom_change known member decoded before
  obtain ⟨final, known, finished⟩ := Decoder.entriesInto_invariant (Draft.ComesFrom entries) kept
    start decoded
  obtain ⟨resultCount, milliseconds, createdAt⟩ := finish_eq_ok finished
  exact ⟨known.resultCount _ resultCount, known.milliseconds _ milliseconds,
    known.createdAt _ createdAt⟩

theorem momentDecoder_eq_ok {node : Json.Node} {moment : Calendar.Moment}
    (decoded : momentDecoder node = .ok moment) :
    ∃ written finish, node = .leaf (.string written) finish ∧
      Calendar.Moment.read written = .ok moment := by
  unfold momentDecoder at decoded
  split at decoded
  next written finish =>
    split at decoded
    next read =>
      obtain rfl := Except.ok.inj decoded
      exact ⟨written, finish, rfl, read⟩
    next => cases decoded
  next => exact absurd decoded Decoder.wrongType_ne_ok

/-- The time of a decoded entry is told by the text in its field. -/
theorem exists_createdAt {entries : Json.Entries} {entry : HistoryEntry}
    (decoded : Decoder.entriesInto shape shape.start [] entries = .ok entry) :
    ∃ written finish, ("createdAt", .leaf (.string written) finish) ∈ entries.fields ∧
      Calendar.Tells written entry.createdAt := by
  obtain ⟨_, _, node, member, createdAt⟩ := comesFrom_of_decoded decoded
  obtain ⟨written, finish, rfl, read⟩ := momentDecoder_eq_ok createdAt
  exact ⟨written, finish, member, Calendar.tells_of_read read⟩

/-- The numbers of a decoded entry fit into 64 bits if those of the record do. -/
theorem numbers_le_largestWord {entries : Json.Entries} {entry : HistoryEntry}
    (decoded : Decoder.entriesInto shape shape.start [] entries = .ok entry)
    (fit : entries.FitWords) :
    entry.resultCount ≤ Json.largestWord ∧ entry.milliseconds ≤ Json.largestWord := by
  have word {name type : String} {n : Nat} {node : Json.Node}
      (member : (name, node) ∈ entries.fields) (read : Decoder.natural type node = .ok n) :
      n ≤ Json.largestWord := by
    obtain ⟨finish, rfl⟩ := Decoder.natural_eq_ok read
    exact Int.ofNat_le.1 (Json.Entries.fitsWord_of_mem fit member)
  obtain ⟨⟨_, rows, resultCount⟩, ⟨_, time, milliseconds⟩, _⟩ := comesFrom_of_decoded decoded
  exact ⟨word rows resultCount, word time milliseconds⟩

/-! ## Round trips -/

/--
An entry of a year with four digits is decoded from its document and from the text of it.  So is an
entry that was itself decoded from some record, and then its time is the one that the record tells,
with whatever offset and however many decimals it is written.
-/
theorem roundTrip {entry : HistoryEntry} (plain : entry.createdAt.HasPlainYear) :
    decode entry.json = .ok entry ∧
      Calendar.Tells entry.createdAt.text entry.createdAt ∧
      (entry.resultCount ≤ Json.largestWord ∧ entry.milliseconds ≤ Json.largestWord →
        Json.decodeText (Decoder.record shape) entry.json.render = .ok entry) ∧
      (∀ fields, decode (.object fields) = .ok entry →
        ∃ written, ("createdAt", .string written) ∈ fields ∧
          Calendar.Tells written entry.createdAt) ∧
      (∀ text start entries, (Json.read text).node = .object start entries →
        Json.decodeText (Decoder.record shape) text = .ok entry →
          Json.decodeText (Decoder.record shape) entry.json.render = .ok entry ∧
          ∃ written finish, ("createdAt", .leaf (.string written) finish) ∈ entries.fields ∧
            Calendar.Tells written entry.createdAt) := by
  refine ⟨decode_json plain, Calendar.tells_of_read (Calendar.Moment.read_text plain),
    fun fits => decodeText_render_json plain fits.1 fits.2, fun fields decoded => ?_,
    fun text start entries record decoded => ?_⟩
  · obtain ⟨written, finish, member, tells⟩ := exists_createdAt decoded
    rw [Json.Entries.fields_ofList] at member
    obtain ⟨⟨name, value⟩, inFields, same⟩ := List.mem_map.1 member
    obtain ⟨rfl, leaf⟩ := Prod.mk.inj same
    obtain rfl := Json.Node.ofJson_eq_string leaf
    exact ⟨written, inFields, tells⟩
  · have whole := Json.fitsWord_read text
    rw [record] at whole
    have into := Json.decodeText_eq_ok decoded
    rw [record] at into
    obtain ⟨rows, time⟩ := numbers_le_largestWord into whole
    exact ⟨decodeText_render_json plain rows time, exists_createdAt into⟩

/-- An attempt in the last second of an evening with a leap second. -/
def lateAttempt : HistoryEntry where
  prompt := "Rows?"
  sql := "DROP \"t\""
  resultCount := 0
  milliseconds := 7
  status := .rejected
  errorMessage := some "No\n"
  createdAt := ⟨⟨2024, 2, 29, by decide⟩, 1350, 59, 1500000000, by decide, by decide, by decide,
    by decide⟩

/-- The late attempt as it is written two hours ahead, where the next day has begun. -/
def lateRecord : Json.Fields :=
  [("prompt", .string "Rows?"), ("sqlQuery", .string "DROP \"t\""), ("note", .null),
    ("resultCount", .integer 0), ("executionTimeMs", .integer 7), ("status", .string "rejected"),
    ("errorMessage", .string "No\n"), ("createdAt", .string "2024-03-01T00:30:60.5000000009+02:00")]

theorem roundTrip_lateAttempt :
    lateAttempt.createdAt.HasPlainYear ∧ decode lateAttempt.json = .ok lateAttempt ∧
      Json.decodeText (Decoder.record shape) lateAttempt.json.render = .ok lateAttempt ∧
      ∃ written, ("createdAt", .string written) ∈ lateRecord ∧
        Calendar.Tells written lateAttempt.createdAt := by
  have plain : lateAttempt.createdAt.HasPlainYear := by decide
  have decoded : decode (.object lateRecord) = .ok lateAttempt := by rfl
  obtain ⟨document, _, text, record, _⟩ := roundTrip plain
  exact ⟨plain, document, text (by decide), record lateRecord decoded⟩

end Querent.HistoryEntry
