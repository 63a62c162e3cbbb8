import Querent.Proofs.Assistant.Fences
import Querent.Proofs.Sql.Layout

/-!
# Statements on lines

In a reply without blocks, the query is the text from the first line that can start a statement
through the line that ends it, with its lines joined.  The query is read as that text is if the lines
may be joined; this is not so when a comment ends with one of them and the statement goes on behind it.
-/

namespace Querent.Extraction

open Text (trim)

/-- Whether a line ends a statement: it ends with a semicolon, apart from blanks. -/
def endsStatement (line : List Char) : Bool :=
  (trim line).getLast? == some ';'

/-- Lines through the first that ends a statement, or all of them if none does. -/
def throughEnd : List (List Char) → List (List Char)
  | [] => []
  | line :: rest => if endsStatement line then [line] else line :: throughEnd rest

/-- Lines from the first that can start a statement on. -/
def fromStart (lines : List (List Char)) : List (List Char) :=
  lines.dropWhile (!startsStatement ·)

/--
The text of a reply from the first line that can start a statement through the first from there on
that ends it, or through the end of the reply if none does.
-/
def excerpt? (reply : String) : Option String :=
  match fromStart (reply.toList.splitOn '\n') with
  | [] => none
  | first :: rest => some (String.ofList (['\n'].intercalate (throughEnd (first :: rest))))

/-- The trimmed lines of a statement with spaces between them, if there are any. -/
def joined? (lines : List (List Char)) : Option (List Char) :=
  match fromStart lines with
  | [] => none
  | first :: rest => some (trim ([' '].intercalate ((throughEnd (first :: rest)).map trim)))

/-- Whether no line starts a block. -/
def Unfenced (lines : List (List Char)) : Prop :=
  ∀ line ∈ lines, Text.startsWith fence (trim line) = false

variable {lines : List (List Char)}

/-! ## The statement as joined lines -/

theorem append_statementTail (unfenced : Unfenced lines) (start : List Char) :
    start ++ statementTail lines = [' '].intercalate (start :: (throughEnd lines).map trim) := by
  induction lines generalizing start with
  | nil => simp [statementTail, throughEnd]
  | cons line rest ih =>
      obtain ⟨plain, later⟩ := List.forall_mem_cons.1 unfenced
      rw [statementTail, throughEnd, endsStatement, plain, if_neg Bool.false_ne_true]
      split
      next => simp
      next =>
        rw [List.map_cons, List.intercalate_cons_cons, ← ih later]
        simp

theorem statementFrom_eq (first : List Char) (unfenced : Unfenced lines) :
    statementFrom first lines = trim ([' '].intercalate ((throughEnd (first :: lines)).map trim)) := by
  rw [statementFrom, throughEnd, endsStatement]
  split
  next => simp
  next => rw [List.map_cons, append_statementTail unfenced]

theorem fromStart_cons (line : List Char) (rest : List (List Char)) :
    fromStart (line :: rest) = if startsStatement line then line :: rest else fromStart rest := by
  rw [fromStart, List.dropWhile_cons]
  cases startsStatement line <;> rfl

theorem joined?_cons (line : List Char) (rest : List (List Char)) :
    joined? (line :: rest) =
      if startsStatement line then
        some (trim ([' '].intercalate ((throughEnd (line :: rest)).map trim)))
      else joined? rest := by
  rw [joined?, fromStart_cons]
  cases startsStatement line <;> rfl

theorem statement?_eq_joined? (unfenced : Unfenced lines) : statement? lines = joined? lines := by
  induction lines with
  | nil => rfl
  | cons line rest ih =>
      have later := (List.forall_mem_cons.1 unfenced).2
      rw [statement?, joined?_cons, statementFrom_eq line later, ih later]

/-! ## Lines up to blanks -/

theorem startsStatement_trim (line : List Char) :
    startsStatement (trim line) = startsStatement line := by
  rw [startsStatement, Text.trim_trim, startsStatement]

theorem endsStatement_trim (line : List Char) : endsStatement (trim line) = endsStatement line := by
  rw [endsStatement, Text.trim_trim, endsStatement]

theorem throughEnd_map_trim (lines : List (List Char)) :
    throughEnd (lines.map trim) = (throughEnd lines).map trim := by
  induction lines with
  | nil => rfl
  | cons line rest ih =>
      rw [List.map_cons, throughEnd, throughEnd, endsStatement_trim, ih]
      split <;> rfl

/-- Only the trimmed form of each line matters. -/
theorem joined?_map_trim (lines : List (List Char)) : joined? (lines.map trim) = joined? lines := by
  have start : fromStart (lines.map trim) = (fromStart lines).map trim := by
    rw [fromStart, List.dropWhile_map]
    refine congrArg (List.map trim <| lines.dropWhile ·) (funext fun line => ?_)
    simp [startsStatement_trim]
  rw [joined?, joined?, start]
  cases fromStart lines with
  | nil => rfl
  | cons first rest =>
      show some (trim ([' '].intercalate ((throughEnd ((first :: rest).map trim)).map trim))) = _
      rw [throughEnd_map_trim, List.map_map]
      simp [Function.comp_def]

theorem throughEnd_concat_nil (lines : List (List Char)) :
    throughEnd (lines ++ [[]]) = throughEnd lines ∨
      throughEnd (lines ++ [[]]) = throughEnd lines ++ [[]] := by
  induction lines with
  | nil => exact .inr rfl
  | cons line rest ih =>
      rw [List.cons_append, throughEnd, throughEnd]
      split
      next => exact .inl rfl
      next => exact ih.imp (congrArg (line :: ·)) (congrArg (line :: ·))

theorem intercalate_concat_nil (nonempty : lines ≠ []) :
    [' '].intercalate (lines ++ [[]]) = [' '].intercalate lines ++ [' '] := by
  induction lines with
  | nil => cases nonempty rfl
  | cons line rest ih =>
      cases rest with
      | nil => simp
      | cons second rest =>
          have later := ih (List.cons_ne_nil _ _)
          rw [List.cons_append, List.cons_append, List.intercalate_cons_cons, ← List.cons_append, later]
          simp

theorem throughEnd_ne_nil (first : List Char) (rest : List (List Char)) :
    throughEnd (first :: rest) ≠ [] := by
  rw [throughEnd]
  split <;> exact List.cons_ne_nil _ _

/-- An empty line at the end makes no difference. -/
theorem joined?_concat_nil (lines : List (List Char)) : joined? (lines ++ [[]]) = joined? lines := by
  induction lines with
  | nil => rfl
  | cons line rest ih =>
      have nonempty : (throughEnd (line :: rest)).map trim ≠ [] :=
        mt List.map_eq_nil_iff.1 (throughEnd_ne_nil line rest)
      have space : Text.IsBlankText [' '] := List.forall_mem_singleton.2 (by decide)
      rw [List.cons_append, joined?_cons, joined?_cons, ih, ← List.cons_append]
      rcases throughEnd_concat_nil (line :: rest) with same | longer
      · rw [same]
      · rw [longer, List.map_append, List.map_singleton, Text.trim_nil,
          intercalate_concat_nil nonempty, Text.trim_append_of_blank space]

/-! ## Replies without blocks -/

theorem infix_intercalate {line : List Char} (separator : List Char) (member : line ∈ lines) :
    line <:+: separator.intercalate lines := by
  induction lines with
  | nil => cases member
  | cons first rest ih =>
      cases rest with
      | nil =>
          obtain rfl : line = first := by simpa using member
          rw [List.intercalate_singleton]
      | cons second rest =>
          rw [List.intercalate_cons_cons]
          rcases List.mem_cons.1 member with rfl | later
          · exact ⟨[], separator ++ separator.intercalate (second :: rest), by simp⟩
          · exact (ih later).trans (List.suffix_append _ _).isInfix

/-- A letter that is changed does not become the mark around a block. -/
theorem eq_backtick_of_toLower {c : Char} (same : c.toLower = '`') : c = '`' := by
  unfold Char.toLower at same
  split at same
  next letter =>
    have lower : c.val.toNat ≤ 90 ∧ 65 ≤ c.val.toNat := ⟨letter.2, letter.1⟩
    have raised : (c.val.toNat + 32) % 2 ^ 32 = 96 := congrArg (·.val.toNat) same
    omega
  next => exact same

/-- The mark before a query is a mark around a block. -/
theorem holdsFence_of_holdsQueryFence {text : String} (holds : HoldsQueryFence text) :
    HoldsFence text := by
  have starts : fence <:+: queryFence := ⟨[], "sql".toList, rfl⟩
  obtain ⟨piece, inside, lowered⟩ := List.infix_map_iff.1 (starts.trans holds)
  have all : ∀ c ∈ piece, c = '`' := by
    intro c member
    have shown : c.toLower ∈ fence := lowered ▸ List.mem_map_of_mem member
    exact eq_backtick_of_toLower (by simpa [fence] using shown)
  have long : piece.length = 3 := by simpa [fence] using (congrArg List.length lowered).symm
  have same : piece = fence := by
    rw [List.eq_replicate_of_mem all, long]
    rfl
  rwa [same] at inside

theorem ofReply_of_unfenced {reply : String} (unfenced : ¬ HoldsFence reply) :
    ofReply reply = ofLines reply.toList := by
  rw [ofReply_of_unmarked (mt holdsFence_of_holdsQueryFence unfenced), ofPlain,
    Text.splitAtFirst_eq_none_iff.2 unfenced]

theorem unfenced_map_trim : Unfenced (lines.map trim) ↔ Unfenced lines := by
  simp [Unfenced]

/-- In a reply without blocks no line starts one. -/
theorem unfenced_splitOn {reply : List Char} (unfenced : ¬ fence <:+: reply) :
    Unfenced (reply.splitOn '\n') := by
  intro line member
  by_contra starts
  obtain ⟨before, after, -, -, split⟩ := Text.exists_trim line
  have inLine : trim line <:+: line := ⟨before, after, by rw [List.append_assoc, ← split]⟩
  have inReply := infix_intercalate ['\n'] member
  rw [List.intercalate_splitOn] at inReply
  have begins : fence <+: trim line :=
    List.isPrefixOf_iff_prefix.1 (Bool.of_not_eq_false starts)
  exact unfenced ((begins.isInfix.trans inLine).trans inReply)

/-- The query in a reply without blocks is what the lines between its line breaks come to. -/
theorem statement?_lines {reply : List Char} (unfenced : ¬ fence <:+: reply) :
    statement? (Text.lines reply) = joined? (reply.splitOn '\n') := by
  have plain := unfenced_map_trim.2 (unfenced_splitOn unfenced)
  rw [← joined?_map_trim (reply.splitOn '\n')]
  rcases Text.map_trim_lines reply with same | longer
  · rw [same] at plain ⊢
    rw [statement?_eq_joined? (unfenced_map_trim.1 plain), joined?_map_trim]
  · rw [longer] at plain ⊢
    have shorter : Unfenced ((Text.lines reply).map trim) :=
      fun line member => plain line (List.mem_append_left _ member)
    rw [statement?_eq_joined? (unfenced_map_trim.1 shorter), joined?_concat_nil, joined?_map_trim]

theorem mem_throughEnd {line : List Char} (member : line ∈ throughEnd lines) : line ∈ lines := by
  induction lines with
  | nil => cases member
  | cons first rest ih =>
      rw [throughEnd] at member
      split at member
      next => exact List.mem_cons.2 (.inl (List.mem_singleton.1 member))
      next => exact List.mem_cons.2 ((List.mem_cons.1 member).imp id ih)

/-- The query in a reply without blocks is its excerpt with the lines joined. -/
theorem joinsBehind_of_excerpt {reply query : String} (unfenced : ¬ HoldsFence reply)
    (isExcerpt : excerpt? reply = some query) :
    Text.JoinsBehind query.toList (ofReply reply).sql.toList := by
  rw [ofReply_of_unfenced unfenced, ofLines, statement?_lines unfenced, joined?]
  unfold excerpt? at isExcerpt
  split at isExcerpt
  next => cases isExcerpt
  next first rest starts =>
    cases isExcerpt
    have whole : ∀ line ∈ throughEnd (first :: rest), '\n' ∉ line := by
      intro line member
      have onward : line ∈ fromStart (reply.toList.splitOn '\n') := starts ▸ mem_throughEnd member
      exact Text.notMem_of_mem_splitOn (List.dropWhile_subset (!startsStatement ·) onward)
    have joins := (Text.joinsBehind_intercalate whole (throughEnd_ne_nil first rest)).cut
    simpa [sql] using joins

/-! ## Tokens -/

open Sql (Dialect Token Joinable pieces tokens)

/--
The query in a reply without blocks is read as its excerpt is, if the lines of the excerpt may be
joined.
-/
theorem tokens_ofReply_of_joinable {dialect : Dialect} {reply query : String} {found : List Token}
    (unfenced : ¬ HoldsFence reply) (isExcerpt : excerpt? reply = some query)
    (read : tokens dialect query = .ok found)
    (joinable : ∀ parts ∈ pieces dialect query, Joinable parts) :
    tokens dialect (ofReply reply).sql = .ok found :=
  Sql.tokens_of_joins read joinable (joinsBehind_of_excerpt unfenced isExcerpt)

theorem tokens_ofReply_of_joinable_comment :
    tokens .duckDb (ofReply
        "The query is:\nSELECT name\n  /* all\n of them */ FROM users;\nThis returns names.").sql =
      .ok [.word (.plain "SELECT".toList), .word (.plain "name".toList),
        .word (.plain "FROM".toList), .word (.plain "users".toList), .symbol .semicolon] :=
  @tokens_ofReply_of_joinable _ _ "SELECT name\n  /* all\n of them */ FROM users;" _
    (by decide +kernel) (by decide +kernel) (by decide +kernel) (by decide +kernel)

/-- A comment that ends with its line takes the rest of the statement with it. -/
theorem not_forall_tokens_ofReply :
    ¬ ∀ (dialect : Dialect) (reply query : String) (found : List Token),
      ¬ HoldsFence reply → excerpt? reply = some query → tokens dialect query = .ok found →
        tokens dialect (ofReply reply).sql = .ok found := by
  intro law
  have lost := law .duckDb "SELECT a -- id\nFROM t" "SELECT a -- id\nFROM t"
    [.word (.plain "SELECT".toList), .word (.plain "a".toList), .word (.plain "FROM".toList),
      .word (.plain "t".toList)] (by decide +kernel) (by decide +kernel) (by decide +kernel)
  revert lost
  decide +kernel

end Querent.Extraction
