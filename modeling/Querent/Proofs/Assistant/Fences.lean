import Querent.Assistant.Extraction
import Querent.Proofs.Text.Blank
import Querent.Proofs.Text.Search

/-!
# Blocks in replies

A query that stands in a block of a reply is found there, whatever surrounds the block.  The query
must not hold the mark around blocks itself, and nothing before its block may be taken for the start
of one.  A block may be marked as a query, in any letter case, and then it need not be closed; it may
be a plain block; and its start may be missing, since the prompt has already opened it.
-/

namespace Querent.Extraction

/-- Whether the mark around a block occurs in a text. -/
def HoldsFence (text : String) : Prop :=
  fence <:+: text.toList

/-- Whether the mark before a block that holds a query occurs in a text, in any letter case. -/
def HoldsQueryFence (text : String) : Prop :=
  queryFence <:+: Text.lowerAscii text.toList

instance (text : String) : Decidable (HoldsFence text) :=
  decidable_of_iff _ Text.occursIn_iff

instance (text : String) : Decidable (HoldsQueryFence text) :=
  decidable_of_iff _ Text.occursIn_iff

theorem newline_notMem_fence : '\n' ∉ fence := by
  decide

/-- No end of the mark before a query is a beginning of it, since only its end is the last letter. -/
theorem unbordered_queryFence : Text.Unbordered queryFence := by
  intro border starts ends
  have all : ∀ start ∈ queryFence.inits, start <:+ queryFence → start = [] ∨ start = queryFence := by
    decide
  exact all border ((List.mem_inits _ _).2 starts) ends

variable {before sql after : List Char}

/-! ## The query in a block -/

theorem isBlankText_newline : Text.IsBlankText ['\n'] := by
  simp [Text.IsBlankText]
  decide

/-- Line breaks around a query make no difference to its trimmed form. -/
theorem trim_between_newlines (sql : List Char) :
    Text.trim ('\n' :: (sql ++ ['\n'])) = Text.trim sql :=
  (Text.trim_append_of_blank_before isBlankText_newline).trans
    (Text.trim_append_of_blank isBlankText_newline)

/-- A line break parts a query that holds no mark from the mark on the next line. -/
theorem splitAtFirst_fence_after_newline (absent : ¬ fence <:+: before) (after : List Char) :
    Text.splitAtFirst fence (before ++ '\n' :: (fence ++ after)) = some (before ++ ['\n'], after) := by
  have stillAbsent : ¬ fence <:+: before ++ ['\n'] := by
    rw [Text.infix_append_cons_iff newline_notMem_fence, not_or]
    exact ⟨absent, by decide⟩
  have split := Text.splitAtFirst_append_of_last stillAbsent (by simpa using newline_notMem_fence) after
  rwa [List.append_assoc] at split

/-- The query on the lines between two marks. -/
theorem splitAtFirst_fence_of_lines (absent : ¬ fence <:+: sql) (after : List Char) :
    Text.splitAtFirst fence ('\n' :: (sql ++ '\n' :: (fence ++ after))) =
      some ('\n' :: (sql ++ ['\n']), after) := by
  refine @splitAtFirst_fence_after_newline ('\n' :: sql) ?_ after
  rw [show '\n' :: sql = [] ++ '\n' :: sql from rfl, Text.infix_append_cons_iff newline_notMem_fence]
  rintro (early | late)
  · exact absurd early (by decide)
  · exact absent late

theorem block_of_lines (absent : ¬ fence <:+: sql) (after : List Char) :
    block ('\n' :: (sql ++ '\n' :: (fence ++ after))) = Text.trim sql := by
  rw [block, splitAtFirst_fence_of_lines absent after]
  exact trim_between_newlines sql

theorem block_of_unclosed (absent : ¬ fence <:+: sql) : block ('\n' :: sql) = Text.trim sql := by
  have nowhere : ¬ fence <:+: '\n' :: sql := by
    rw [show '\n' :: sql = [] ++ '\n' :: sql from rfl,
      Text.infix_append_cons_iff newline_notMem_fence]
    rintro (early | late)
    · exact absurd early (by decide)
    · exact absent late
  rw [block, Text.splitAtFirst_eq_none_iff.2 nowhere]
  exact Text.trim_append_of_blank_before isBlankText_newline

/-! ## Finding the block -/

/-- The mark before a query is found in any letter case, at its first place in the reply. -/
theorem afterQueryFence?_append {opening : List Char} (marks : Text.lowerAscii opening = queryFence)
    (absent : ¬ queryFence <:+: Text.lowerAscii before) (body : List Char) :
    afterQueryFence? (before ++ (opening ++ body)) = some body := by
  have lowered : Text.lowerAscii (before ++ (opening ++ body)) =
      Text.lowerAscii before ++ (queryFence ++ Text.lowerAscii body) := by
    rw [← marks]
    simp [Text.lowerAscii]
  have asLong : (Text.lowerAscii before).length + queryFence.length =
      (before ++ opening).length := by
    rw [← marks]
    simp [Text.lowerAscii]
  rw [afterQueryFence?, lowered, unbordered_queryFence.splitAtFirst_append absent, Option.map_some]
  simp only [asLong]
  rw [← List.append_assoc, List.drop_left]

theorem afterQueryFence?_of_absent {reply : List Char}
    (absent : ¬ queryFence <:+: Text.lowerAscii reply) : afterQueryFence? reply = none := by
  rw [afterQueryFence?, Text.splitAtFirst_eq_none_iff.2 absent, Option.map_none]

theorem sql_ofReply_of_marked {reply : String} {body : List Char}
    (marked : afterQueryFence? reply.toList = some body) :
    (ofReply reply).sql = String.ofList (block body) := by
  rw [ofReply, marked]
  rfl

theorem ofReply_of_unmarked {reply : String} (unmarked : ¬ HoldsQueryFence reply) :
    ofReply reply = ofPlain reply.toList := by
  rw [ofReply, afterQueryFence?_of_absent unmarked]

/-- A plain block starts at the first mark, if the text before it does not run into the mark. -/
theorem sql_ofPlain_of_block (absent : ¬ fence <:+: before) (parted : before.getLast? ≠ some '`')
    (plain : ¬ fence <:+: sql) (after : List Char) :
    (ofPlain (before ++ (fence ++ '\n' :: (sql ++ '\n' :: (fence ++ after))))).sql =
      String.ofList (Text.trim sql) := by
  have apart : ∀ c ∈ before.getLast?, c ∉ fence := by
    rintro c isLast inFence
    have backtick : c = '`' := by simpa [fence] using inFence
    exact parted (backtick ▸ isLast)
  rw [ofPlain, Text.splitAtFirst_append_of_last absent apart]
  simp only [splitAtFirst_fence_of_lines plain after, trim_between_newlines]
  rfl

/-- A single mark closes the block that is already open when the reply starts. -/
theorem sql_ofPlain_of_closing (plain : ¬ fence <:+: sql) (solid : Text.trim sql ≠ [])
    (absent : ¬ fence <:+: after) :
    (ofPlain (sql ++ '\n' :: (fence ++ after))).sql = String.ofList (Text.trim sql) := by
  have trimmed : Text.trim (sql ++ ['\n']) = Text.trim sql :=
    Text.trim_append_of_blank isBlankText_newline
  rw [ofPlain, splitAtFirst_fence_after_newline plain after]
  simp only [Text.splitAtFirst_eq_none_iff.2 absent, trimmed, List.isEmpty_iff, solid, if_false]
  rfl

/--
A query that does not hold the mark around blocks itself is found in its block: in the first block
that is marked as a query, even if it is not closed; else in the first block of all, if the text
before it does not end in the character of the mark; else before the only mark of the reply.
-/
theorem sql_ofReply_of_fenced {sql : String} (plain : ¬ HoldsFence sql) (pre post : String) :
    (∀ word : String, Text.lowerAscii word.toList = "sql".toList → ¬ HoldsQueryFence pre →
      (ofReply (pre ++ "```" ++ word ++ "\n" ++ sql ++ "\n```" ++ post)).sql = trimmed sql ∧
      (ofReply (pre ++ "```" ++ word ++ "\n" ++ sql)).sql = trimmed sql) ∧
    (¬ HoldsQueryFence (pre ++ "```\n" ++ sql ++ "\n```" ++ post) → ¬ HoldsFence pre →
      pre.toList.getLast? ≠ some '`' →
      (ofReply (pre ++ "```\n" ++ sql ++ "\n```" ++ post)).sql = trimmed sql) ∧
    (trimmed sql ≠ "" → ¬ HoldsFence post → ¬ HoldsQueryFence (sql ++ "\n```" ++ post) →
      (ofReply (sql ++ "\n```" ++ post)).sql = trimmed sql) := by
  have opens {word : String} (marks : Text.lowerAscii word.toList = "sql".toList) :
      Text.lowerAscii (fence ++ word.toList) = queryFence := by
    have lowered : Text.lowerAscii (fence ++ word.toList) =
        Text.lowerAscii fence ++ Text.lowerAscii word.toList := List.map_append
    rw [lowered, marks]
    decide
  refine ⟨fun word marks absent => ⟨?_, ?_⟩, fun unmarked absent parted => ?_,
    fun solid absent unmarked => ?_⟩
  · have written : (pre ++ "```" ++ word ++ "\n" ++ sql ++ "\n```" ++ post).toList =
        pre.toList ++ ((fence ++ word.toList) ++
          '\n' :: (sql.toList ++ '\n' :: (fence ++ post.toList))) := by
      simp [fence]
    have marked := afterQueryFence?_append (opens marks) absent
      ('\n' :: (sql.toList ++ '\n' :: (fence ++ post.toList)))
    rw [sql_ofReply_of_marked (written ▸ marked), block_of_lines plain, trimmed]
  · have written : (pre ++ "```" ++ word ++ "\n" ++ sql).toList =
        pre.toList ++ ((fence ++ word.toList) ++ '\n' :: sql.toList) := by
      simp [fence]
    have marked := afterQueryFence?_append (opens marks) absent ('\n' :: sql.toList)
    rw [sql_ofReply_of_marked (written ▸ marked), block_of_unclosed plain, trimmed]
  · have written : (pre ++ "```\n" ++ sql ++ "\n```" ++ post).toList =
        pre.toList ++ (fence ++ '\n' :: (sql.toList ++ '\n' :: (fence ++ post.toList))) := by
      simp [fence]
    rw [ofReply_of_unmarked unmarked, written, sql_ofPlain_of_block absent parted plain, trimmed]
  · have written : (sql ++ "\n```" ++ post).toList =
        sql.toList ++ '\n' :: (fence ++ post.toList) := by
      simp [fence]
    have solid : Text.trim sql.toList ≠ [] := by
      simpa [trimmed] using solid
    rw [ofReply_of_unmarked unmarked, written, sql_ofPlain_of_closing plain solid absent, trimmed]

theorem sql_ofReply_of_fenced_users :
    (ofReply "Here you go:\n```SQL\nSELECT id FROM users;\n```\nEnjoy.").sql =
        "SELECT id FROM users;" ∧
      (ofReply "Here you go:\n```SQL\nSELECT id FROM users;").sql = "SELECT id FROM users;" ∧
      (ofReply "Here you go:\n```\nSELECT id FROM users;\n```\nEnjoy.").sql =
        "SELECT id FROM users;" ∧
      (ofReply "SELECT id FROM users;\n```\nEnjoy.").sql = "SELECT id FROM users;" := by
  obtain ⟨marked, block, closing⟩ := @sql_ofReply_of_fenced "SELECT id FROM users;"
    (by decide +kernel) "Here you go:\n" "\nEnjoy."
  obtain ⟨closed, unclosed⟩ := marked "SQL" (by decide +kernel) (by decide +kernel)
  have same : trimmed "SELECT id FROM users;" = "SELECT id FROM users;" := by decide +kernel
  rw [same] at closed unclosed block closing
  exact ⟨closed, unclosed, block (by decide +kernel) (by decide +kernel) (by decide +kernel),
    closing (by decide +kernel) (by decide +kernel) (by decide +kernel)⟩

end Querent.Extraction
