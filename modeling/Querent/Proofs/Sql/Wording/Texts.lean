import Mathlib.Data.List.Basic
import Querent.Proofs.Sql.ForbiddenWords
import Querent.Proofs.Text.Search
import Querent.Sql.Printer

/-!
# Innocent texts

A text is *innocent* when it mentions no forbidden word.  Every part of an innocent text is innocent.
Innocent texts in a row make up an innocent text when a *break* stands between any two of them, that
is a character that no forbidden word holds.

The canonical text of a query is put together from parts, most of which start or end with a break.
An innocent text that ends with a break, or is empty, is an *opening*: anything innocent may follow.
One that starts with a break, or is empty, is a *clause*: it may follow anything innocent.  A *joint*
is both at once and not empty.
-/

namespace Querent.Sql

/-! ## Letters -/

/-- The letters of the forbidden words. -/
def forbiddenLetters : List (List Char) :=
  [['D', 'R', 'O', 'P'], ['D', 'E', 'L', 'E', 'T', 'E'],
    ['T', 'R', 'U', 'N', 'C', 'A', 'T', 'E'], ['I', 'N', 'S', 'E', 'R', 'T'],
    ['U', 'P', 'D', 'A', 'T', 'E'], ['A', 'L', 'T', 'E', 'R'], ['C', 'R', 'E', 'A', 'T', 'E'],
    ['R', 'E', 'P', 'L', 'A', 'C', 'E'], ['G', 'R', 'A', 'N', 'T'],
    ['R', 'E', 'V', 'O', 'K', 'E'], ['E', 'X', 'E', 'C'], ['E', 'X', 'E', 'C', 'U', 'T', 'E']]

theorem map_toList_forbiddenWords : forbiddenWords.map String.toList = forbiddenLetters := by
  simp [forbiddenWords, forbiddenLetters]

/-- Whether letters mention no forbidden word. -/
def Blameless (letters : List Char) : Prop :=
  ∀ word ∈ forbiddenLetters, ¬ word <:+: Text.upper letters

instance (letters : List Char) : Decidable (Blameless letters) :=
  decidable_of_iff
    (forbiddenLetters.all (fun word => !Text.occursIn word (Text.upper letters)) = true)
    (by simp [Blameless, ← Text.occursIn_iff])

/-- Whether no forbidden word holds a character in upper case. -/
def isBreak (c : Char) : Bool :=
  match Text.upperChar c with
  | [upper] => forbiddenLetters.all fun word => !word.contains upper
  | _ => false

/-- No forbidden word reaches across a break. -/
theorem infix_upper_append_cons_iff {word before after : List Char} {c : Char}
    (breaks : isBreak c = true) (forbidden : word ∈ forbiddenLetters) :
    word <:+: Text.upper (before ++ c :: after) ↔
      word <:+: Text.upper before ∨ word <:+: Text.upper after := by
  unfold isBreak at breaks
  split at breaks
  next upper single =>
    have absent : upper ∉ word := by
      simpa using List.all_eq_true.1 breaks word forbidden
    rw [Text.upper_append, Text.upper_cons, single, List.singleton_append]
    exact Text.infix_append_cons_iff absent
  next => cases breaks

namespace Blameless

theorem of_infix {whole part : List Char} (blameless : Blameless whole) (inside : part <:+: whole) :
    Blameless part := by
  obtain ⟨before, after, rfl⟩ := inside
  intro word forbidden mentioned
  refine blameless word forbidden (mentioned.trans ?_)
  exact ⟨Text.upper before, Text.upper after, by simp⟩

/-- A break parts what is blameless from what is blameless. -/
theorem append_cons_iff {before after : List Char} {c : Char} (breaks : isBreak c = true) :
    Blameless (before ++ c :: after) ↔ Blameless before ∧ Blameless after := by
  constructor
  · intro blameless
    exact ⟨blameless.of_infix (List.prefix_append _ _).isInfix,
      blameless.of_infix ((List.suffix_cons _ _).trans (List.suffix_append _ _)).isInfix⟩
  · rintro ⟨first, last⟩ word forbidden mentioned
    rcases (infix_upper_append_cons_iff breaks forbidden).1 mentioned with inFront | behind
    · exact first word forbidden inFront
    · exact last word forbidden behind

theorem cons_iff {after : List Char} {c : Char} (breaks : isBreak c = true) :
    Blameless (c :: after) ↔ Blameless after := by
  have parted := @append_cons_iff [] after c breaks
  rw [List.nil_append] at parted
  rw [parted, and_iff_right_iff_imp]
  exact fun blameless => blameless.of_infix List.nil_infix

end Blameless

/-! ## Texts -/

/-- Whether a text mentions no forbidden word. -/
def Innocent (text : String) : Prop :=
  Blameless text.toList

theorem innocent_iff {text : String} : Innocent text ↔ forbiddenWord? text = none := by
  rw [forbiddenWord?_eq_none_iff, Innocent, Blameless, ← map_toList_forbiddenWords,
    List.forall_mem_map]
  rfl

instance (text : String) : Decidable (Innocent text) :=
  inferInstanceAs (Decidable (Blameless text.toList))

/-- An innocent text that is empty or starts with a break. -/
structure Clause (text : String) : Prop where
  innocent : Innocent text
  starts : ∀ c ∈ text.toList.head?, isBreak c = true

/-- An innocent text that is empty or ends with a break. -/
structure Opening (text : String) : Prop where
  innocent : Innocent text
  ends : ∀ c ∈ text.toList.getLast?, isBreak c = true

/-- An innocent text that starts and ends with a break. -/
structure Joint (text : String) : Prop extends Clause text, Opening text where
  nonempty : text.toList ≠ []

instance (text : String) : Decidable (Clause text) :=
  decidable_of_iff (Innocent text ∧ text.toList.head?.all isBreak = true)
    ⟨fun ⟨innocent, starts⟩ => ⟨innocent, Option.all_eq_true _ _ |>.1 starts⟩,
      fun clause => ⟨clause.innocent, Option.all_eq_true _ _ |>.2 clause.starts⟩⟩

instance (text : String) : Decidable (Opening text) :=
  decidable_of_iff (Innocent text ∧ text.toList.getLast?.all isBreak = true)
    ⟨fun ⟨innocent, ends⟩ => ⟨innocent, Option.all_eq_true _ _ |>.1 ends⟩,
      fun opening => ⟨opening.innocent, Option.all_eq_true _ _ |>.2 opening.ends⟩⟩

instance (text : String) : Decidable (Joint text) :=
  decidable_of_iff (Clause text ∧ Opening text ∧ text.toList ≠ [])
    ⟨fun ⟨clause, opening, nonempty⟩ => ⟨clause, opening.ends, nonempty⟩,
      fun joint => ⟨joint.toClause, joint.toOpening, joint.nonempty⟩⟩

variable {first second mark : String}

theorem innocent_empty : Innocent "" := by
  decide

theorem clause_empty : Clause "" := by
  decide

theorem opening_empty : Opening "" := by
  decide

/-- A clause may follow anything innocent. -/
theorem Innocent.clause (innocent : Innocent first) (clause : Clause second) :
    Innocent (first ++ second) := by
  have blameless := clause.innocent
  have starts := clause.starts
  unfold Innocent at *
  rw [String.toList_append]
  cases letters : second.toList with
  | nil =>
      rw [List.append_nil]
      exact innocent
  | cons c rest =>
      rw [letters] at blameless starts
      have breaks := starts c rfl
      exact (Blameless.append_cons_iff breaks).2 ⟨innocent, (Blameless.cons_iff breaks).1 blameless⟩

/-- Anything innocent may follow an opening. -/
theorem Opening.text (opening : Opening first) (innocent : Innocent second) :
    Innocent (first ++ second) := by
  have blameless := opening.innocent
  have ends := opening.ends
  unfold Innocent at *
  rw [String.toList_append]
  rcases List.eq_nil_or_concat first.toList with letters | ⟨front, c, letters⟩
  · rw [letters]
    exact innocent
  · rw [letters] at blameless ends ⊢
    rw [List.concat_eq_append] at blameless ends ⊢
    have breaks := ends c (by simp)
    rw [List.append_assoc, List.singleton_append, Blameless.append_cons_iff breaks]
    exact ⟨blameless.of_infix (List.prefix_append _ _).isInfix, innocent⟩

theorem Clause.append (clause : Clause first) (later : Clause second) :
    Clause (first ++ second) where
  innocent := clause.innocent.clause later
  starts := by
    intro c isFirst
    rw [String.toList_append] at isFirst
    cases letters : first.toList with
    | nil =>
        rw [letters] at isFirst
        exact later.starts c isFirst
    | cons d rest =>
        rw [letters] at isFirst
        exact clause.starts c (by rw [letters]; exact isFirst)

theorem Opening.append (opening : Opening first) (later : Opening second) :
    Opening (first ++ second) where
  innocent := opening.text later.innocent
  ends := by
    intro c isLast
    rw [String.toList_append] at isLast
    rcases List.eq_nil_or_concat second.toList with letters | ⟨front, d, letters⟩
    · rw [letters, List.append_nil] at isLast
      exact opening.ends c isLast
    · refine later.ends c ?_
      rw [letters, List.concat_eq_append] at isLast ⊢
      rw [← List.append_assoc, List.getLast?_concat] at isLast
      rwa [List.getLast?_concat]

/-- A joint after anything innocent makes it an opening. -/
theorem Innocent.joint (innocent : Innocent first) (joint : Joint mark) :
    Opening (first ++ mark) where
  innocent := innocent.clause joint.toClause
  ends := by
    intro c isLast
    refine joint.ends c ?_
    rwa [String.toList_append, List.getLast?_append_of_ne_nil _ joint.nonempty] at isLast

/-- A joint before anything innocent makes it a clause. -/
theorem Joint.clause (joint : Joint mark) (innocent : Innocent second) : Clause (mark ++ second) where
  innocent := joint.toOpening.text innocent
  starts := by
    intro c isFirst
    refine joint.starts c ?_
    rwa [String.toList_append, List.head?_append_of_ne_nil _ joint.nonempty] at isFirst

/-- A joint parts anything innocent from anything innocent. -/
theorem Innocent.joined {last : String} (innocent : Innocent first) (joint : Joint mark)
    (later : Innocent last) : Innocent (first ++ mark ++ last) :=
  (innocent.joint joint).text later

theorem Clause.joined {last : String} (clause : Clause first) (joint : Joint mark)
    (later : Innocent last) : Clause (first ++ mark ++ last) := by
  rw [String.append_assoc]
  exact clause.append (joint.clause later)

/-- A part of an innocent text is innocent. -/
theorem Innocent.of_infix {whole part : String} (innocent : Innocent whole)
    (inside : part.toList <:+: whole.toList) : Innocent part :=
  Blameless.of_infix innocent inside

theorem Innocent.left (innocent : Innocent (first ++ second)) : Innocent first :=
  innocent.of_infix (by rw [String.toList_append]; exact (List.prefix_append _ _).isInfix)

theorem Innocent.right (innocent : Innocent (first ++ second)) : Innocent second :=
  innocent.of_infix (by rw [String.toList_append]; exact (List.suffix_append _ _).isInfix)

theorem clause_intercalate {parts : List String} (clauses : ∀ part ∈ parts, Clause part) :
    Clause ("".intercalate parts) := by
  induction parts with
  | nil => exact clause_empty
  | cons part rest ih =>
      rw [List.forall_mem_cons] at clauses
      cases rest with
      | nil =>
          rw [String.intercalate_singleton]
          exact clauses.1
      | cons next rest =>
          rw [String.intercalate_cons_cons, String.append_empty]
          exact clauses.1.append (ih clauses.2)

theorem innocent_intercalate {parts : List String} (joint : Joint mark)
    (innocent : ∀ part ∈ parts, Innocent part) : Innocent (mark.intercalate parts) := by
  induction parts with
  | nil => exact innocent_empty
  | cons part rest ih =>
      rw [List.forall_mem_cons] at innocent
      cases rest with
      | nil =>
          rw [String.intercalate_singleton]
          exact innocent.1
      | cons next rest =>
          rw [String.intercalate_cons_cons]
          exact (innocent.1.joint joint).text (ih innocent.2)

theorem innocent_of_intercalate {parts : List String} (innocent : Innocent (mark.intercalate parts)) :
    ∀ part ∈ parts, Innocent part := by
  induction parts with
  | nil => exact List.forall_mem_nil _
  | cons part rest ih =>
      cases rest with
      | nil =>
          rw [String.intercalate_singleton] at innocent
          simpa using innocent
      | cons next rest =>
          rw [String.intercalate_cons_cons] at innocent
          exact List.forall_mem_cons.2 ⟨innocent.left.left, ih innocent.right⟩

/-! ## Optional parts and lists -/

section Parts

variable {present : Bool} {part : String} {found : Option String} {parts : List String}

theorem innocent_onlyIf (innocent : Innocent part) : Innocent (onlyIf present part) := by
  cases present with
  | true => exact innocent
  | false => exact innocent_empty

theorem clause_onlyIf (clause : Clause part) : Clause (onlyIf present part) := by
  cases present with
  | true => exact clause
  | false => exact clause_empty

theorem opening_onlyIf (opening : Opening part) : Opening (onlyIf present part) := by
  cases present with
  | true => exact opening
  | false => exact opening_empty

theorem clause_optionClause (joint : Joint mark) (innocent : ∀ part ∈ found, Innocent part) :
    Clause (optionClause mark found) := by
  cases found with
  | none => exact clause_empty
  | some part => exact joint.clause (innocent part rfl)

theorem opening_optionClause (openings : ∀ part ∈ found, Opening part) :
    Opening (optionClause "" found) := by
  cases found with
  | none => exact opening_empty
  | some part =>
      rw [optionClause, String.empty_append]
      exact openings part rfl

theorem innocent_commaJoined (innocent : ∀ part ∈ parts, Innocent part) :
    Innocent (commaJoined parts) :=
  innocent_intercalate (by decide) innocent

theorem clause_listClause (joint : Joint mark) (innocent : ∀ part ∈ parts, Innocent part) :
    Clause (listClause mark parts) := by
  unfold listClause
  split
  · exact clause_empty
  · exact joint.clause (innocent_commaJoined innocent)

theorem innocent_listClause (opening : Opening mark) (innocent : ∀ part ∈ parts, Innocent part) :
    Innocent (listClause mark parts) := by
  unfold listClause
  split
  · exact innocent_empty
  · exact opening.text (innocent_commaJoined innocent)

end Parts

/-! ## Texts that are used all over -/

theorem joint_blank : Joint " " := by
  decide

theorem joint_openParen : Joint "(" := by
  decide

theorem joint_closeParen : Joint ")" := by
  decide

theorem clause_closeParen : Clause ")" :=
  joint_closeParen.toClause

theorem Innocent.parenthesized {text : String} (innocent : Innocent text) :
    Joint ("(" ++ text ++ ")") :=
  { (joint_openParen.clause innocent).append clause_closeParen,
    (joint_openParen.toOpening.text innocent).joint joint_closeParen with
    nonempty := by simp }

/-! ## Symbols, numbers and quoted texts -/

theorem isBreak_of_isDigit {c : Char} (digit : c.isDigit = true) : isBreak c = true := by
  have bounds : 48 ≤ c.toNat ∧ c.toNat ≤ 57 := Char.isDigit_iff_toNat.1 digit
  exact Text.forall_ascii (P := fun c => c.isDigit = true → isBreak c = true) (by decide)
    (by omega) digit

theorem blameless_of_isBreak {letters : List Char} (breaks : ∀ c ∈ letters, isBreak c = true) :
    Blameless letters := by
  induction letters with
  | nil => exact innocent_empty
  | cons c rest ih =>
      rw [List.forall_mem_cons] at breaks
      exact (Blameless.cons_iff breaks.1).2 (ih breaks.2)

theorem innocent_symbol (mark : Symbol) : Innocent mark.text := by
  have breaks : mark.text.toList.all isBreak = true := by
    cases mark <;> rfl
  exact blameless_of_isBreak (List.all_eq_true.1 breaks)

theorem innocent_toString (n : Nat) : Innocent (toString n) := by
  unfold Innocent
  rw [Nat.toString_eq_ofList_toDigits, String.toList_ofList]
  refine blameless_of_isBreak fun c member => isBreak_of_isDigit ?_
  exact Nat.isDigit_of_mem_toDigits (by decide) (by decide) member

/--
Doubling quotes puts breaks next to breaks.  A quote is swallowed only after another quote, so there
is nothing before it then.
-/
theorem blameless_doubleQuotes {quote : Char} (breaks : isBreak quote = true) {previous : Char}
    {swallow : Bool} {front letters : List Char} (atQuote : swallow = true → front = [])
    (blameless : Blameless (front ++ letters)) :
    Blameless (front ++ doubleQuotes quote previous swallow letters) := by
  have never {front : List Char} : false = true → front = [] := nofun
  fun_induction doubleQuotes quote previous swallow letters generalizing front with
  | case1 => exact blameless
  | case2 previous c rest isQuote ih =>
      rw [beq_iff_eq] at isQuote
      subst isQuote
      rw [atQuote rfl] at blameless ⊢
      exact ih never ((Blameless.cons_iff breaks).1 blameless)
  | case3 previous swallow c rest isQuote kept escaped ih =>
      rw [beq_iff_eq] at isQuote
      subst isQuote
      obtain ⟨before, after⟩ := (Blameless.append_cons_iff breaks).1 blameless
      exact (Blameless.append_cons_iff breaks).2 ⟨before, ih never (show Blameless ([] ++ rest) from after)⟩
  | case4 previous swallow c rest isQuote kept unescaped ih =>
      rw [beq_iff_eq] at isQuote
      subst isQuote
      obtain ⟨before, after⟩ := (Blameless.append_cons_iff breaks).1 blameless
      refine (Blameless.append_cons_iff breaks).2 ⟨before, (Blameless.cons_iff breaks).2 ?_⟩
      exact ih (fun _ => rfl) (show Blameless ([] ++ rest) from after)
  | case5 previous swallow c rest other ih =>
      rw [List.append_cons] at blameless ⊢
      exact ih never blameless

theorem joint_singleton {c : Char} (breaks : isBreak c = true) : Joint (String.singleton c) where
  innocent := blameless_of_isBreak (by simpa using breaks)
  starts := by simpa using breaks
  ends := by simpa using breaks
  nonempty := by simp

theorem innocent_quoteText {quote : Char} {text : String} (breaks : isBreak quote = true)
    (innocent : Innocent text) : Innocent (quoteText quote text) := by
  have inner : Innocent (String.ofList (doubleQuotes quote (Char.ofNat 0) false text.toList)) := by
    unfold Innocent
    rw [String.toList_ofList]
    have never : false = true → ([] : List Char) = [] := nofun
    exact blameless_doubleQuotes breaks never (show Blameless ([] ++ text.toList) from innocent)
  exact ((joint_singleton breaks).toOpening.text inner).clause (joint_singleton breaks).toClause

end Querent.Sql
