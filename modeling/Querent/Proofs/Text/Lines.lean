import Querent.Proofs.Text.Blank
import Querent.Text.Search

/-!
# Lines

The lines of a text are what stands between its line breaks, up to blanks at their ends.  They are
joined into one line by writing a single space for each line break and the blanks around it.
-/

namespace Querent.Text

/-! ## Joining -/

/-- Whether the second text is the first one with its lines joined. -/
inductive Joins : List Char → List Char → Prop where
  /-- Blanks at the end are left out. -/
  | trailing {text : List Char} (blank : IsBlankText text) : Joins text []
  | kept {c : Char} (solid : c ≠ '\n') {text joined : List Char} (later : Joins text joined) :
      Joins (c :: text) (c :: joined)
  | gap {blanks : List Char} (blank : IsBlankText blanks) (broken : '\n' ∈ blanks)
      {text joined : List Char} (later : Joins text joined) : Joins (blanks ++ text) (' ' :: joined)

/-- Whether the second text is the first one with its lines joined, apart from blanks before it. -/
def JoinsBehind (text joined : List Char) : Prop :=
  ∃ margin body, IsBlankText margin ∧ text = margin ++ body ∧ Joins body joined

namespace Joins

variable {text joined piece behind : List Char}

theorem toBehind (joins : Joins text joined) : JoinsBehind text joined :=
  ⟨[], text, isBlankText_nil, rfl, joins⟩

theorem eq_nil (joins : Joins text joined) (empty : text = []) : joined = [] := by
  cases joins with
  | trailing => rfl
  | kept => cases empty
  | gap blank broken later =>
      obtain ⟨rfl, -⟩ := List.append_eq_nil_iff.1 empty
      cases broken

theorem newline_notMem (joins : Joins text joined) : '\n' ∉ joined := by
  induction joins with
  | trailing => exact List.not_mem_nil
  | kept solid _ ih => exact List.not_mem_cons_of_ne_of_not_mem solid.symm ih
  | gap _ _ _ ih => exact List.not_mem_cons_of_ne_of_not_mem (by decide) ih

theorem isBlankText (joins : Joins text joined) (blank : IsBlankText joined) : IsBlankText text := by
  induction joins with
  | trailing all => exact all
  | kept _ _ ih =>
      obtain ⟨first, later⟩ := List.forall_mem_cons.1 blank
      exact List.forall_mem_cons.2 ⟨first, ih later⟩
  | gap all _ _ ih =>
      exact isBlankText_append.2 ⟨all, ih (List.forall_mem_cons.1 blank).2⟩

/-- A piece without line breaks that does not end with a blank is kept. -/
theorem exists_of_append (joins : Joins (piece ++ behind) joined) (whole : '\n' ∉ piece)
    (ends : ∀ c ∈ piece.getLast?, isBlank c = false) :
    ∃ left, joined = piece ++ left ∧ Joins behind left := by
  induction piece generalizing joined with
  | nil => exact ⟨joined, rfl, joins⟩
  | cons c piece ih =>
      have last := List.getLast_mem_getLast? (List.cons_ne_nil c piece)
      have solid : ∃ d ∈ c :: piece, isBlank d = false :=
        ⟨_, List.mem_of_mem_getLast? last, ends _ last⟩
      generalize split : c :: piece ++ behind = text at joins
      cases joins with
      | trailing blank =>
          obtain ⟨d, inside, notBlank⟩ := solid
          rw [blank d (split ▸ List.mem_append_left _ inside)] at notBlank
          cases notBlank
      | kept notBreak later =>
          cases split
          have ends : ∀ d ∈ piece.getLast?, isBlank d = false := by
            intro d isLast
            refine ends d ?_
            rw [List.getLast?_cons, Option.mem_def.1 isLast]
            rfl
          obtain ⟨left, rfl, same⟩ := ih later (List.not_mem_of_not_mem_cons whole) ends
          exact ⟨left, rfl, same⟩
      | gap blank broken later =>
          rcases List.append_eq_append_iff.1 split with ⟨rest, rfl, -⟩ | ⟨rest, inside, -⟩
          · obtain ⟨d, inside, notBlank⟩ := solid
            rw [blank d (List.mem_append_left _ inside)] at notBlank
            cases notBlank
          · exact absurd (inside ▸ List.mem_append_left _ broken) whole

theorem append (whole : '\n' ∉ piece) (joins : Joins text joined) :
    Joins (piece ++ text) (piece ++ joined) := by
  induction piece with
  | nil => exact joins
  | cons c piece ih =>
      exact .kept (List.ne_of_not_mem_cons whole).symm (ih (List.not_mem_of_not_mem_cons whole))

/-- Blanks at the end of the joined text make no difference. -/
theorem cutEnd (joins : Joins text joined) : Joins text (trimEnd joined) := by
  induction joins with
  | trailing blank => exact .trailing blank
  | @kept c notBreak text joined later ih =>
      by_cases blank : IsBlankText (c :: joined)
      · rw [trimEnd_eq_nil_iff.2 blank]
        exact .trailing ((Joins.kept notBreak later).isBlankText blank)
      · rw [trimEnd_cons_of_solid blank]
        exact .kept notBreak ih
  | @gap blanks allBlank broken text joined later ih =>
      by_cases blank : IsBlankText (' ' :: joined)
      · rw [trimEnd_eq_nil_iff.2 blank]
        exact .trailing ((Joins.gap allBlank broken later).isBlankText blank)
      · rw [trimEnd_cons_of_solid blank]
        exact .gap allBlank broken ih

/-- Blanks before the joined text make no difference either. -/
theorem cutStart (joins : Joins text joined) : JoinsBehind text (trimStart joined) := by
  induction joins with
  | trailing blank => exact ⟨_, [], blank, (List.append_nil _).symm, .trailing isBlankText_nil⟩
  | @kept c notBreak text joined later ih =>
      by_cases blank : isBlank c = true
      · obtain ⟨margin, body, all, rfl, joins⟩ := ih
        rw [trimStart, List.dropWhile_cons_of_pos blank]
        exact ⟨c :: margin, body, List.forall_mem_cons.2 ⟨blank, all⟩, rfl, joins⟩
      · rw [trimStart, List.dropWhile_cons_of_neg blank]
        exact ⟨[], c :: text, isBlankText_nil, rfl, .kept notBreak later⟩
  | @gap blanks allBlank broken text joined later ih =>
      obtain ⟨margin, body, all, rfl, joins⟩ := ih
      exact ⟨blanks ++ margin, body, isBlankText_append.2 ⟨allBlank, all⟩,
        (List.append_assoc ..).symm, joins⟩

end Joins

namespace JoinsBehind

variable {c : Char} {text rest joined : List Char}

/-- Blanks around the joined text make no difference. -/
theorem cut (joins : JoinsBehind text joined) : JoinsBehind text (trim joined) := by
  obtain ⟨margin, body, blank, rfl, joins⟩ := joins
  obtain ⟨more, rest, alsoBlank, rfl, later⟩ := joins.cutStart
  exact ⟨margin ++ more, rest, isBlankText_append.2 ⟨blank, alsoBlank⟩,
    (List.append_assoc ..).symm, later.cutEnd⟩

/-- When lines are joined, a character is left out or stays, or a space stands in its place. -/
theorem exists_of_cons (joins : JoinsBehind (c :: rest) joined) :
    ∃ left, JoinsBehind rest left ∧ (joined = left ∨ joined = c :: left ∨ joined = ' ' :: left) := by
  obtain ⟨margin, body, allBlank, split, joins⟩ := joins
  cases margin with
  | cons d margin =>
      cases split
      exact ⟨joined, ⟨margin, body, (List.forall_mem_cons.1 allBlank).2, rfl, joins⟩, .inl rfl⟩
  | nil =>
      obtain rfl : c :: rest = body := split
      generalize whole : c :: rest = text at joins
      cases joins with
      | trailing all =>
          subst whole
          refine ⟨[], ⟨rest, [], (List.forall_mem_cons.1 all).2, ?_, ?_⟩, .inl rfl⟩
          · exact (List.append_nil _).symm
          · exact .trailing isBlankText_nil
      | kept notBreak later =>
          cases whole
          exact ⟨_, ⟨[], rest, isBlankText_nil, rfl, later⟩, .inr (.inl rfl)⟩
      | @gap blanks all broken text left later =>
          cases blanks with
          | nil => cases broken
          | cons d blanks =>
              cases whole
              exact ⟨left, ⟨blanks, text, (List.forall_mem_cons.1 all).2, rfl, later⟩,
                .inr (.inr rfl)⟩

/-- The joined form of a text that starts with no blank starts at the same place. -/
theorem joins_of_solid (solid : isBlank c = false) (joins : JoinsBehind (c :: rest) joined) :
    Joins (c :: rest) joined := by
  obtain ⟨margin, body, blank, split, later⟩ := joins
  cases margin with
  | nil => rwa [split]
  | cons d margin =>
      cases split
      rw [blank c (List.mem_cons_self ..)] at solid
      cases solid

end JoinsBehind

/-- Joining lines puts a single space between their trimmed forms. -/
theorem joinsBehind_intercalate {parts : List (List Char)} (whole : ∀ line ∈ parts, '\n' ∉ line)
    (nonempty : parts ≠ []) :
    JoinsBehind (['\n'].intercalate parts) ([' '].intercalate (parts.map trim)) := by
  induction parts with
  | nil => cases nonempty rfl
  | cons line parts ih =>
      obtain ⟨first, later⟩ := List.forall_mem_cons.1 whole
      obtain ⟨before, after, blankBefore, blankAfter, split⟩ := exists_trim line
      have solid : '\n' ∉ trim line := fun inside => first <| by
        rw [split]
        exact List.mem_append_right _ (List.mem_append_left _ inside)
      cases parts with
      | nil =>
          rw [List.intercalate_singleton, List.map_singleton, List.intercalate_singleton]
          have joins := Joins.append solid (.trailing blankAfter)
          rw [List.append_nil] at joins
          exact ⟨before, trim line ++ after, blankBefore, split, joins⟩
      | cons second parts =>
          obtain ⟨margin, body, blank, same, joins⟩ := ih later (List.cons_ne_nil _ _)
          have blanks : IsBlankText (after ++ '\n' :: margin) :=
            isBlankText_append.2 ⟨blankAfter, List.forall_mem_cons.2 ⟨by decide, blank⟩⟩
          rw [List.map_cons, List.map_cons, List.intercalate_cons_cons, List.intercalate_cons_cons,
            List.append_assoc, List.append_assoc, same]
          have gap := Joins.append solid (.gap blanks (by simp) joins)
          have whole : line ++ (['\n'] ++ (margin ++ body)) =
              before ++ (trim line ++ (after ++ '\n' :: margin ++ body)) := by
            conv_lhs => rw [split]
            simp
          exact ⟨before, _, blankBefore, whole, gap⟩

/-! ## The lines of a text -/

theorem notMem_of_mem_splitOn {separator : Char} {text line : List Char}
    (member : line ∈ text.splitOn separator) : separator ∉ line := by
  induction text generalizing line with
  | nil =>
      obtain rfl : line = [] := by simpa using member
      exact List.not_mem_nil
  | cons c rest ih =>
      rw [List.splitOn_cons_eq_if_modifyHead] at member
      split at member
      next =>
        rcases List.mem_cons.1 member with rfl | later
        · exact List.not_mem_nil
        · exact ih later
      next other =>
        have different : separator ≠ c := fun same => other (beq_iff_eq.2 same.symm)
        cases known : rest.splitOn separator with
        | nil => exact absurd known (List.splitOn_ne_nil _ _)
        | cons first more =>
            rw [known] at member ih
            rcases List.mem_cons.1 member with rfl | later
            · exact List.not_mem_cons_of_ne_of_not_mem different (ih (List.mem_cons_self ..))
            · exact ih (List.mem_cons_of_mem _ later)

theorem foldl_step_of_notMem {line : List Char} (whole : '\n' ∉ line) (current : List Char)
    (finished : List (List Char)) :
    line.foldl lines.step (current, finished) = (line.reverse ++ current, finished) := by
  induction line generalizing current with
  | nil => rfl
  | cons c line ih =>
      have plain : (c == '\n') = false := beq_eq_false_iff_ne.2 (List.ne_of_not_mem_cons whole).symm
      rw [List.foldl_cons, lines.step, plain, if_neg (by decide),
        ih (List.not_mem_of_not_mem_cons whole)]
      simp

/-- Lines that are finished stay before those that follow. -/
theorem foldl_step_finished (text current : List Char) (finished : List (List Char)) :
    text.foldl lines.step (current, finished) =
      ((text.foldl lines.step (current, [])).1,
        (text.foldl lines.step (current, [])).2 ++ finished) := by
  induction text generalizing current finished with
  | nil => rfl
  | cons c text ih =>
      rw [List.foldl_cons, List.foldl_cons, lines.step, lines.step]
      split
      next =>
        rw [ih, ih _ [_]]
        simp
      next => exact ih _ _

theorem lines_of_notMem {line : List Char} (whole : '\n' ∉ line) :
    lines line = if line = [] then [] else [line] := by
  rw [lines, foldl_step_of_notMem whole]
  cases line with
  | nil => rfl
  | cons c line => simp

/-- The first line of a text is, up to blanks, what stands before its first line break. -/
theorem exists_lines_append {line : List Char} (whole : '\n' ∉ line) (text : List Char) :
    ∃ first, lines (line ++ '\n' :: text) = first :: lines text ∧ trim first = trim line := by
  have finishes (first : List Char)
      (stepped : lines.step (line.reverse, []) '\n' = ([], [first])) :
      lines (line ++ '\n' :: text) = first :: lines text := by
    rw [lines, List.foldl_append, foldl_step_of_notMem whole, List.append_nil, List.foldl_cons,
      stepped, foldl_step_finished, lines]
    generalize text.foldl lines.step ([], []) = parts
    obtain ⟨current, finished⟩ := parts
    cases current <;> simp
  rcases List.eq_nil_or_concat' line with rfl | ⟨start, last, rfl⟩
  · exact ⟨[], finishes [] rfl, rfl⟩
  · by_cases returns : last = '\r'
    · subst returns
      refine ⟨start, finishes start (by simp [lines.step]), ?_⟩
      exact (trim_append_of_blank (List.forall_mem_singleton.2 (by decide))).symm
    · exact ⟨start ++ [last], finishes _ (by simp [lines.step, returns]), rfl⟩

/-- The lines of a text are, up to blanks, what stands between its line breaks. -/
theorem map_trim_lines (text : List Char) :
    (text.splitOn '\n').map trim = (lines text).map trim ∨
      (text.splitOn '\n').map trim = (lines text).map trim ++ [[]] := by
  have joined (parts : List (List Char)) (whole : ∀ line ∈ parts, '\n' ∉ line)
      (nonempty : parts ≠ []) :
      parts.map trim = (lines (['\n'].intercalate parts)).map trim ∨
        parts.map trim = (lines (['\n'].intercalate parts)).map trim ++ [[]] := by
    induction parts with
    | nil => cases nonempty rfl
    | cons line parts ih =>
        obtain ⟨first, later⟩ := List.forall_mem_cons.1 whole
        cases parts with
        | nil =>
            rw [List.intercalate_singleton, lines_of_notMem first]
            split
            next empty =>
              right
              rw [empty]
              rfl
            next => exact .inl rfl
        | cons second parts =>
            obtain ⟨shown, split, same⟩ :=
              exists_lines_append first (['\n'].intercalate (second :: parts))
            rw [List.intercalate_cons_cons, List.append_assoc, List.singleton_append, split,
              List.map_cons, List.map_cons (l := lines _), same]
            rcases ih later (List.cons_ne_nil _ _) with alike | alike
            · exact .inl (congrArg (trim line :: ·) alike)
            · exact .inr (congrArg (trim line :: ·) alike)
  have split := joined (text.splitOn '\n') (fun _ => notMem_of_mem_splitOn) (List.splitOn_ne_nil _ _)
  rwa [List.intercalate_splitOn] at split

end Querent.Text
