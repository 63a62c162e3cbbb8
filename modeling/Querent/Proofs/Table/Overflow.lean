import Querent.Proofs.Table.Amount
import Querent.Proofs.Table.Leader

/-!
# Numbers beyond all numbers

Sums of finite numbers may be too large for a number.  The summaries of columns leave out such totals,
and with a total also its mean, the smallest and the largest of the numbers are finite.  Trends and the
comparison of categories have no such guard: they show infinity exactly if the percentage or one of the
two totals they name is infinite.  What is no number is never shown: a trend that is none is no trend,
and sums of finite numbers are infinite at worst.
-/

namespace Querent

open Text Decimal

/-! ## Statistics of finite numbers -/

namespace Statistics

variable {values : List Float}

/-- The mean of at least two numbers is finite if their sum is. -/
theorem isFinite_mean (several : 2 ≤ values.length) (total : (sum values).isFinite = true) :
    (mean values).isFinite = true :=
  isFinite_div total (reaches_ofNat several)

theorem foldl_choose_mem {choose : Float → Float → Float}
    (either : ∀ a b, choose a b = a ∨ choose a b = b) (start : Float) :
    values.foldl choose start ∈ start :: values := by
  induction values generalizing start with
  | nil => exact List.mem_cons_self
  | cons value rest ih =>
    rw [List.foldl_cons]
    rcases either start value with same | same
    · rw [same]
      grind
    · rw [same]
      exact List.mem_cons_of_mem _ (ih value)

/-- A choice among numbers of which every finite one is better than the first candidate is finite. -/
theorem isFinite_foldl_choose {choose : Float → Float → Float} {start : Float}
    (either : ∀ a b, choose a b = a ∨ choose a b = b)
    (better : ∀ value, value.isFinite = true → choose start value = value)
    (finite : ∀ value ∈ values, value.isFinite = true) (some : values ≠ []) :
    (values.foldl choose start).isFinite = true := by
  cases values with
  | nil => exact absurd rfl some
  | cons value rest =>
    rw [List.foldl_cons, better value (finite value List.mem_cons_self)]
    exact finite _ (foldl_choose_mem either value)

theorem isFinite_least (finite : ∀ value ∈ values, value.isFinite = true) (some : values ≠ []) :
    (least values).isFinite = true := by
  apply isFinite_foldl_choose _ _ finite some
  · intro low value
    split
    next => exact .inr rfl
    next => exact .inl rfl
  · intro value isFinite
    exact if_pos (lt_infinity isFinite)

theorem isFinite_greatest (finite : ∀ value ∈ values, value.isFinite = true) (some : values ≠ []) :
    (greatest values).isFinite = true := by
  apply isFinite_foldl_choose _ _ finite some
  · intro low value
    split
    next => exact .inr rfl
    next => exact .inl rfl
  · intro value isFinite
    exact if_pos (neg_infinity_lt isFinite)

end Statistics

namespace Totals

theorem isNaN_foldl_add {values : List Float} {start : Float} (number : start.isNaN = false)
    (finite : ∀ value ∈ values, value.isFinite = true) :
    (values.foldl (· + ·) start).isNaN = false := by
  induction values generalizing start with
  | nil => exact number
  | cons value rest ih =>
    rcases List.forall_mem_cons.1 finite with ⟨isFinite, others⟩
    exact ih (Decimal.isNaN_add number isFinite) others

/-- A sum of finite numbers is a number, if not always a finite one. -/
theorem isNaN_sumOf {values : List Float} {total : Float} (sum : sumOf? values = some total)
    (finite : ∀ value ∈ values, value.isFinite = true) : total.isNaN = false := by
  cases values with
  | nil => cases sum
  | cons first rest =>
    rw [sumOf?, Option.some.injEq] at sum
    subst sum
    rcases List.forall_mem_cons.1 finite with ⟨isFinite, others⟩
    exact isNaN_foldl_add (Decimal.isNaN_of_isFinite isFinite) others

end Totals

/-! ## Tables of finite numbers -/

/-- Whether a document is no number or a finite one. -/
def Json.IsFinite : Json → Prop
  | .integer value => (Float.ofInt value).isFinite = true
  | .float value => value.isFinite = true
  | _ => True

instance (value : Json) : Decidable value.IsFinite :=
  match value with
  | .integer _ | .float _ => inferInstanceAs (Decidable (_ = true))
  | .null | .bool _ | .string _ | .array _ | .object _ => .isTrue trivial

/--
Whether neither the names of the columns nor the texts of the cells of a table mention infinity or what
is no number, and all numbers in the cells are finite.
-/
structure Table.Clear (table : Table) : Prop where
  columns : ∀ column ∈ table.columns, Plain column
  cells : ∀ row ∈ table.rows, ∀ field ∈ row, Plain (Table.label (some field.2))
  numbers : ∀ row ∈ table.rows, ∀ field ∈ row, field.2.IsFinite

theorem Json.mem_of_lookup {fields : Json.Fields} {name : String} {value : Json}
    (found : Json.lookup fields name = some value) : (name, value) ∈ fields := by
  rcases List.lookup_eq_some_iff.1 found with ⟨before, after, whole, _⟩
  rw [whole]
  exact List.mem_append_right before List.mem_cons_self

namespace Table

variable {table : Table} {row : Row} {column : String}

/-- The number that a cell holds is finite. -/
theorem isFinite_number {cell : Json} {value : Float} (finite : cell.IsFinite)
    (read : number? cell = some value) : value.isFinite = true := by
  cases cell with
  | integer whole =>
    cases read
    exact finite
  | float number =>
    cases read
    exact finite
  | string text =>
    have read : numberOfText? text = some value := read
    unfold numberOfText? at read
    exact (Option.filter_eq_some_iff.1 read).2
  | null | bool _ | array _ | object _ => cases read

theorem eq_some_of_present {found : Option Json} {cell : Json}
    (present : present? found = some cell) : found = some cell := by
  unfold present? at present
  split at present
  next => cases present
  next => cases present
  next => exact present

theorem mentions_readable_iff {word : String} (noUnderscore : '_' ∉ word.toList)
    (noBlank : ' ' ∉ word.toList) : Mentions word (readable column) ↔ Mentions word column := by
  rw [Mentions, readable, String.toList_ofList]
  exact infix_replaceChar_iff noUnderscore noBlank

namespace Clear

theorem isFinite_numberIn (clear : table.Clear) (member : row ∈ table.rows) {value : Float}
    (read : Insight.numberIn? column row = some value) : value.isFinite = true := by
  rcases Option.bind_eq_some_iff.1 read with ⟨cell, found, number⟩
  exact isFinite_number (clear.numbers row member _ (Json.mem_of_lookup found)) number

theorem isFinite_numbers (clear : table.Clear) {value : Float}
    (member : value ∈ Table.numbers table.rows column) : value.isFinite = true := by
  rcases List.mem_filterMap.1 member with ⟨cell, present, number⟩
  rcases List.mem_filterMap.1 present with ⟨row, inTable, found⟩
  exact isFinite_number (clear.numbers row inTable _
    (Json.mem_of_lookup (eq_some_of_present found))) number

theorem plain_label (clear : table.Clear) (member : row ∈ table.rows) (category : String) :
    Plain (Insight.labelIn category row) := by
  rw [Insight.labelIn]
  cases found : Json.lookup row category with
  | none => decide
  | some cell => exact clear.cells row member _ (Json.mem_of_lookup found)

theorem plain_readable (clear : table.Clear) (member : column ∈ table.columns) :
    Plain (readable column) := by
  rcases clear.columns column member with ⟨number, infinity⟩
  constructor
  · exact mt (mentions_readable_iff (by decide) (by decide)).1 number
  · exact mt (mentions_readable_iff (by decide) (by decide)).1 infinity

end Clear

end Table

/-! ## Insights as texts with slots -/

namespace Insight

/-- The slots of the wording of an insight, each with the wording that follows it. -/
def slots : Insight → List (String × String)
  | noResults => [("No results found for this query", ".")]
  | size rows columns =>
    [("", "Found "), (toString rows, " "), (pluralized rows "result", " with "),
      (toString columns, " "), (pluralized columns "column", ".")]
  | money column total low high =>
    [("", "Total "), (Table.readable column, ": "), (Amount.dollars 0 total, ", ranging from "),
      (Amount.dollars 2 low, " to "), (Amount.dollars 2 high, ".")]
  | quantity column total mean =>
    [("", "Total "), (Table.readable column, ": "), (Amount.plain total, ", average: "),
      (Decimal.fixedText 1 mean, ".")]
  | trend column change =>
    [(Table.readable column, if change > 0 then " increased by " else " decreased by "),
      (Decimal.fixedText 1 (change.abs * 100), "% over the time period.")]
  | leader category first second =>
    [("", "Top "), (Table.readable category, ": \""), (first.1, "\" leads with "),
      (Amount.plain first.2, ", followed by \""), (second.1, "\" at "),
      (Amount.plain second.2, ".")]
  | anomaly column count =>
    [(toString count, " unusual "), (pluralized count "value", " detected in "),
      (Table.readable column, " (significantly different from average).")]

theorem fill_slots (insight : Insight) : fill insight.slots = insight.text := by
  unfold text
  cases insight with
  | trend column change =>
    by_cases rises : 0 < change <;> simp [slots, fill, rises, String.append_assoc]
  | _ => simp [slots, fill, String.append_assoc]

theorem separates_slots {word : String} (name : word = "NaN" ∨ word = "inf")
    (insight : Insight) : ∀ slot ∈ insight.slots, Separates word slot.2 := by
  cases insight with
  | trend column change =>
    rcases name with rfl | rfl <;>
      simp only [slots, List.forall_mem_cons] <;> split <;> decide
  | _ =>
    rcases name with rfl | rfl <;>
      simp only [slots, List.forall_mem_cons] <;> decide

/-- An insight names infinity, or what is no number, if one of its slots does. -/
theorem mentions_text_iff {word : String} (name : word = "NaN" ∨ word = "inf") (insight : Insight) :
    Mentions word insight.text ↔ ∃ slot ∈ insight.slots, Mentions word slot.1 := by
  rw [← fill_slots]
  apply mentions_fill_iff _ (separates_slots name insight)
  rcases name with rfl | rfl <;> decide

theorem plain_pluralized (count : Nat) {noun : String} (one : Plain noun)
    (several : Plain (noun ++ "s")) : Plain (pluralized count noun) := by
  unfold pluralized
  split
  next => exact one
  next => exact several

/-! ## Which insights show infinity -/

/-- Whether one of the numbers that an insight shows without a guard is not finite. -/
def Overflows : Insight → Prop
  | trend _ change => (change.abs * 100).isFinite = false
  | leader _ first second => first.2.isFinite = false ∨ second.2.isFinite = false
  | _ => False

/-- Whether an insight shows infinity exactly if it overflows, and never what is no number. -/
structure Faithful (insight : Insight) : Prop where
  number : ¬ Mentions "NaN" insight.text
  infinity : Mentions "inf" insight.text ↔ insight.Overflows

variable {table : Table} {column : String} {insight : Insight}

theorem faithful_of_slots (number : ∀ slot ∈ insight.slots, ¬ Mentions "NaN" slot.1)
    (infinity : (∃ slot ∈ insight.slots, Mentions "inf" slot.1) ↔ insight.Overflows) :
    Faithful insight := by
  constructor
  · rw [mentions_text_iff (.inl rfl)]
    rintro ⟨slot, member, mentions⟩
    exact number slot member mentions
  · rw [mentions_text_iff (.inr rfl)]
    exact infinity

theorem faithful_of_plain (guarded : ¬ insight.Overflows)
    (plain : ∀ slot ∈ insight.slots, Plain slot.1) : Faithful insight := by
  apply faithful_of_slots
  · intro slot member
    exact (plain slot member).1
  · apply iff_of_false _ guarded
    rintro ⟨slot, member, mentions⟩
    exact (plain slot member).2 mentions

theorem faithful_size (rows columns : Nat) : Faithful (size rows columns) := by
  apply faithful_of_plain id
  simp only [slots, List.forall_mem_cons]
  exact ⟨by decide, plain_toString rows, plain_pluralized rows (by decide) (by decide),
    plain_toString columns, plain_pluralized columns (by decide) (by decide), by simp⟩

theorem SumsUp.faithful (sumsUp : SumsUp table.rows column insight) (clear : table.Clear)
    (member : column ∈ table.columns) : Faithful insight := by
  have readable := clear.plain_readable member
  have finite : ∀ value ∈ Table.numbers table.rows column, value.isFinite = true := by
    intro value inColumn
    exact clear.isFinite_numbers inColumn
  cases sumsUp with
  | money several total =>
    have some : Table.numbers table.rows column ≠ [] := by
      intro none
      rw [none] at several
      cases several
    apply faithful_of_plain id
    simp only [slots, List.forall_mem_cons]
    exact ⟨by decide, readable, Amount.plain_dollars 0 total,
      Amount.plain_dollars 2 (Statistics.isFinite_least finite some),
      Amount.plain_dollars 2 (Statistics.isFinite_greatest finite some), by simp⟩
  | quantity several total =>
    have mean := Statistics.isFinite_mean several total
    apply faithful_of_plain id
    simp only [slots, List.forall_mem_cons]
    exact ⟨by decide, readable, (Amount.shows_plain (isNaN_of_isFinite total)).plain total,
      (shows_fixedText 1 (isNaN_of_isFinite mean)).plain mean, by simp⟩

/-- A hundred times a number is a number. -/
theorem isNaN_percent {change : Float} (number : change.isNaN = false) :
    (change.abs * 100).isNaN = false := by
  have hundred : (100 : Float).toModel.unpack = .finite .positive (100 * 2 ^ 46) (-46) (by decide) :=
    rfl
  apply isNaN_mul _ hundred
  rw [isNaN_abs]
  exact number

theorem faithful_trend {change : Float} (readable : Plain (Table.readable column))
    (number : change.isNaN = false) : Faithful (trend column change) := by
  have shows := shows_fixedText 1 (isNaN_percent number)
  apply faithful_of_slots
  · simp only [slots, List.forall_mem_cons]
    exact ⟨readable.1, shows.number, by simp⟩
  · simp only [slots, List.exists_mem_cons_iff, List.not_mem_nil, false_and, exists_false, or_false]
    rw [or_iff_right readable.2]
    exact shows.infinity

/-- The change of a trend is large, so it is a number. -/
theorem ShowsTrend.faithful (shows : ShowsTrend table column insight) (clear : table.Clear)
    (member : column ∈ table.columns) : Faithful insight := by
  cases shows with
  | trend _ _ _ _ large =>
    refine faithful_trend (clear.plain_readable member) (Bool.eq_false_iff.2 fun undefined => ?_)
    rw [← isNaN_abs] at undefined
    exact not_lt_of_isNaN undefined large

theorem faithful_leader {category : String} {first second : String × Float}
    (readable : Plain (Table.readable category)) (firstLabel : Plain first.1)
    (secondLabel : Plain second.1) (firstNumber : first.2.isNaN = false)
    (secondNumber : second.2.isNaN = false) : Faithful (leader category first second) := by
  have firstShows := Amount.shows_plain firstNumber
  have secondShows := Amount.shows_plain secondNumber
  have empty : Plain "" := by decide
  apply faithful_of_slots
  · simp only [slots, List.forall_mem_cons]
    exact ⟨empty.1, readable.1, firstLabel.1, firstShows.number, secondLabel.1,
      secondShows.number, by simp⟩
  · simp only [slots, List.exists_mem_cons_iff, List.not_mem_nil, false_and, exists_false, or_false]
    rw [or_iff_right empty.2, or_iff_right readable.2, or_iff_right firstLabel.2,
      or_iff_right secondLabel.2]
    exact or_congr firstShows.infinity secondShows.infinity

/-- A label with a total is plain, and its total is a number. -/
theorem plain_of_isTotal {category measure : String} {entry : String × Float}
    (clear : table.Clear) (total : IsTotal category measure table.rows entry) :
    Plain entry.1 ∧ entry.2.isNaN = false := by
  rcases exists_isTotal_iff.1 ⟨_, total⟩ with ⟨row, measured, named⟩
  constructor
  · rw [← named]
    exact clear.plain_label (List.mem_of_mem_filter measured) category
  · apply Totals.isNaN_sumOf total
    intro value member
    rcases List.mem_filterMap.1 member with ⟨row, grouped, read⟩
    exact clear.isFinite_numberIn (List.mem_of_mem_filter grouped) read

theorem faithful_leaderOf (clear : table.Clear) (found : leaderOf table = some insight) :
    Faithful insight := by
  rcases leaderOf_eq_some_iff.1 found with
    ⟨category, measure, first, second, ⟨_, _, whole, _⟩, _, lead, rfl⟩
  have member : category ∈ table.columns := by
    rw [whole]
    exact List.mem_append_right _ List.mem_cons_self
  rcases plain_of_isTotal clear lead.first_total with ⟨firstLabel, firstNumber⟩
  rcases plain_of_isTotal clear lead.second_total with ⟨secondLabel, secondNumber⟩
  exact faithful_leader (clear.plain_readable member) firstLabel secondLabel firstNumber
    secondNumber

theorem ShowsAnomaly.faithful (shows : ShowsAnomaly table.rows column insight) (clear : table.Clear)
    (member : column ∈ table.columns) : Faithful insight := by
  cases shows with
  | anomaly =>
    apply faithful_of_plain id
    simp only [slots, List.forall_mem_cons]
    exact ⟨plain_toString _, plain_pluralized _ (by decide) (by decide),
      clear.plain_readable member, by simp⟩

/-- A block is faithful if what a column of the table shows is. -/
theorem Block.faithful {shows : String → Insight → Prop} {chosen : List String}
    {insights : List Insight} (block : Block shows table.columns chosen insights)
    (each : ∀ {column insight}, shows column insight → column ∈ table.columns → Faithful insight)
    (member : insight ∈ insights) : Faithful insight := by
  rcases block.exists_shown member with ⟨column, listed, shown⟩
  exact each shown listed

theorem faithful_of_mem_all (clear : table.Clear) (member : insight ∈ all table) :
    Faithful insight := by
  unfold all at member
  split at member
  next =>
    rw [List.mem_singleton.1 member]
    exact faithful_of_plain id (by decide)
  next =>
    rcases block_summaries table.rows table.columns with ⟨_, summaries⟩
    rcases block_trends table with ⟨_, trends⟩
    rcases block_anomalies table.rows table.columns with ⟨_, anomalies⟩
    simp only [List.mem_cons, List.mem_append, Option.mem_toList] at member
    rcases member with rfl | (((summary | trend) | found) | anomaly)
    · exact faithful_size _ _
    · exact summaries.faithful (fun shown => shown.faithful clear) summary
    · exact trends.faithful (fun shown => shown.faithful clear) trend
    · exact faithful_leaderOf clear found
    · exact anomalies.faithful (fun shown => shown.faithful clear) anomaly

/--
Among the insights of a table of finite numbers, exactly those name infinity that overflow: a trend
whose percentage is not finite, and a comparison of categories one of whose two totals is not.  None
names what is no number.
-/
theorem infinity_shown_iff_overflows (clear : table.Clear) (member : insight ∈ all table) :
    ¬ Mentions "NaN" insight.text ∧ (Mentions "inf" insight.text ↔ insight.Overflows) := by
  have faithful := faithful_of_mem_all clear member
  exact ⟨faithful.number, faithful.infinity⟩

/-- A table of finite numbers with a label whose numbers add up to infinity. -/
def overflowing : Table where
  columns := ["region", "units"]
  rows :=
    [[("region", .string "North"), ("units", .float 1.5e308)],
      [("region", .string "North"), ("units", .float 1.5e308)],
      [("region", .string "South"), ("units", .integer 1)]]

theorem clear_overflowing : overflowing.Clear := by
  constructor
  case columns => decide
  case cells => decide +kernel
  case numbers => decide +kernel

/-- One of the two labels that lead has a total that is not finite. -/
theorem exists_overflows_overflowing : ∃ insight ∈ all overflowing, insight.Overflows := by
  have isCategory : overflowing.columns.find? (Text.mentionsAny categoryWords) =
      some "region" := by decide +kernel
  have isMeasure : overflowing.columns.find? (Table.isNumeric overflowing.rows) =
      some "units" := by decide +kernel
  have infinite : (1.5e308 + 1.5e308 : Float).isFinite = false := by decide +kernel
  have north : IsTotal "region" "units" overflowing.rows ("North", 1.5e308 + 1.5e308) := rfl
  have south : IsTotal "region" "units" overflowing.rows ("South", Float.ofInt 1) := rfl
  rcases exists_ranked_of_ne north south (by simp) with ⟨first, second, rest, order⟩
  have lead := lead_of_ranked order
  have found := leaderOf_eq_some_iff.2 ⟨_, _, first, second, find?_eq_some_iff_isFirst.1 isCategory,
    find?_eq_some_iff_isFirst.1 isMeasure, lead, rfl⟩
  have slots : (totals overflowing.rows "region" "units").slots.toList =
      [("North", 1.5e308 + 1.5e308), ("South", Float.ofInt 1)] := rfl
  have either (entry : String × Float)
      (total : IsTotal "region" "units" overflowing.rows entry) :
      entry = ("North", 1.5e308 + 1.5e308) ∨ entry = ("South", Float.ofInt 1) := by
    rw [← mem_totals_iff, slots] at total
    exact List.mem_pair.1 total
  refine ⟨_, List.mem_cons_of_mem _ (List.mem_append_left _
    (List.mem_append_right _ (Option.mem_toList.2 found))), ?_⟩
  -- The ranking is not computed: whoever leads, the other label is the second.
  rcases either first lead.first_total with rfl | rfl
  · exact .inl infinite
  · rcases either second lead.second_total with rfl | rfl
    · exact .inr infinite
    · exact absurd rfl lead.different

/-- A comparison of categories that overflows names infinity. -/
theorem infinity_shown_iff_overflows_overflowing :
    overflowing.Clear ∧ ∃ insight ∈ all overflowing,
      insight.Overflows ∧ ¬ Mentions "NaN" insight.text ∧ Mentions "inf" insight.text := by
  rcases exists_overflows_overflowing with ⟨insight, member, overflows⟩
  have shown := infinity_shown_iff_overflows clear_overflowing member
  exact ⟨clear_overflowing, insight, member, overflows, shown.1, shown.2.2 overflows⟩

/-- Not all insights of tables of finite numbers are free of the names of infinity. -/
theorem not_forall_plain :
    ¬ ∀ table insight, table.Clear → insight ∈ all table → Plain insight.text := by
  intro claimed
  rcases exists_overflows_overflowing with ⟨insight, member, overflows⟩
  exact (claimed overflowing insight clear_overflowing member).2
    ((faithful_of_mem_all clear_overflowing member).infinity.2 overflows)

end Insight

end Querent
