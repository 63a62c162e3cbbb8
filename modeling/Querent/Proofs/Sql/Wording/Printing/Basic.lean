import Mathlib.Data.Option.Basic
import Querent.Proofs.Sql.Wording.Innocence

/-!
# Printing innocent parts

What is printed of a tree is innocent when what is printed of its parts is: the words that the
printer puts around the parts are no forbidden words, and breaks part them from what they surround.
There are four exceptions, where the printer writes a forbidden word itself or leaves no break: a
lock for updates, an overflow that truncates, a list of partitions and a wildcard whose columns are
replaced.
-/

namespace Querent.Sql

/-! ## Names, values and types -/

theorem innocent_qualifiedName {name : QualifiedName} (innocent : ∀ part ∈ name, Innocent part.sql) :
    Innocent (QualifiedName.sql name) :=
  innocent_intercalate (by decide) (List.forall_mem_map.2 innocent)

theorem innocent_identList {names : List Ident} (innocent : ∀ name ∈ names, Innocent name.sql) :
    Innocent (identList names) :=
  innocent_commaJoined (List.forall_mem_map.2 innocent)

theorem TableAlias.innocent {label : TableAlias} (name : Innocent label.name.sql)
    (columns : ∀ column ∈ label.columns, Innocent column.sql) : Innocent label.sql := by
  refine name.clause (clause_onlyIf (Clause.append (Joint.clause ?_ ?_) clause_closeParen))
  · decide
  · exact innocent_identList columns

theorem clause_aliasSql {label : Option TableAlias} (innocent : ∀ name ∈ label, Innocent name.sql) :
    Clause (aliasSql label) :=
  clause_optionClause (by decide) (Option.forall_mem_map.2 innocent)

namespace DataType

variable {name : String} {element : DataType}

theorem clause_size {length : Option Nat} : Clause (size length) := by
  cases length with
  | none => exact clause_empty
  | some n => exact (innocent_toString n).parenthesized.toClause

theorem clause_zone (tz : Zone) (long : tz ≠ .short) : Clause (zone tz) := by
  cases tz with
  | short => exact absurd rfl long
  | _ => decide

theorem innocent_plain (innocent : Innocent name) : Innocent (sql (.plain name)) := by
  exact innocent

theorem innocent_sized (innocent : Innocent name) {length : Option Nat} :
    Innocent (sql (.sized name length)) := by
  exact innocent.clause clause_size

theorem innocent_integer (innocent : Innocent name) {width : Option Nat} {unsigned : Bool} :
    Innocent (sql (.integer name width unsigned)) := by
  exact (innocent.clause clause_size).clause (clause_onlyIf (by decide))

theorem innocent_characters (innocent : Innocent name) {length : Option Nat}
    {unit : Option String} (unitInnocent : ∀ word ∈ unit, Innocent word) :
    Innocent (sql (.characters name length unit)) := by
  cases length with
  | none =>
      exact innocent
  | some n =>
      have length : Clause s!"({n}" := joint_openParen.clause (innocent_toString n)
      have unit := clause_optionClause joint_blank unitInnocent
      exact ((innocent.clause length).clause unit).clause clause_closeParen

theorem innocent_decimal (innocent : Innocent name) {precision scale : Option Nat} :
    Innocent (sql (.decimal name precision scale)) := by
  have sized : Innocent (name ++ size precision) := innocent.clause clause_size
  match precision, scale with
  | none, _ => exact sized
  | some whole, none => exact sized
  | some whole, some fraction =>
      have first : Clause ("(" ++ toString whole) := joint_openParen.clause (innocent_toString _)
      have both : Clause ("(" ++ toString whole ++ "," ++ toString fraction) :=
        first.joined (by decide) (innocent_toString _)
      exact innocent.clause (both.append clause_closeParen)

theorem innocent_temporal (innocent : Innocent name) (short : Innocent (name ++ "TZ"))
    {precision : Option Nat} {tz : Zone} : Innocent (sql (.temporal name precision tz)) := by
  cases tz with
  | short => exact short.clause clause_size
  | _ => exact (innocent.clause clause_size).clause (clause_zone _ (by simp))

theorem innocent_members (innocent : Innocent name) {values : List String}
    (valuesInnocent : ∀ value ∈ values, Innocent value) :
    Innocent (sql (.members name values)) := by
  refine (innocent.joined joint_openParen (innocent_commaJoined ?_)).clause clause_closeParen
  rw [List.forall_mem_map]
  exact fun value member => innocent_quoteText (by decide) (valuesInnocent value member)

theorem innocent_custom {name : QualifiedName} (innocent : ∀ part ∈ name, Innocent part.sql)
    {modifiers : List String} (modifiersInnocent : ∀ modifier ∈ modifiers, Innocent modifier) :
    Innocent (sql (.custom name modifiers)) := by
  have whole := innocent_qualifiedName innocent
  cases modifiers with
  | nil => exact whole
  | cons modifier rest =>
      exact (whole.joined joint_openParen (innocent_commaJoined modifiersInnocent)).clause
        clause_closeParen

theorem innocent_arrayOf (innocent : Innocent element.sql) : Innocent (sql (.arrayOf element)) := by
  exact innocent.clause (by decide)

theorem innocent_angledArray (innocent : Innocent element.sql) :
    Innocent (sql (.angledArray element)) := by
  refine (Opening.text ?_ innocent).clause ?_ <;> decide

theorem innocent_fieldsSql {fields : List (Option Ident × DataType)}
    (innocent : ∀ field ∈ fields, (∀ name ∈ field.1, Innocent name.sql) ∧ Innocent field.2.sql) :
    ∀ part ∈ fieldsSql fields, Innocent part := by
  induction fields with
  | nil => exact List.forall_mem_nil _
  | cons field rest ih =>
      rw [List.forall_mem_cons] at innocent
      obtain ⟨⟨nameInnocent, typeInnocent⟩, restInnocent⟩ := innocent
      obtain ⟨name, type⟩ := field
      cases name with
      | none => exact List.forall_mem_cons.2 ⟨typeInnocent, ih restInnocent⟩
      | some name =>
          have both := (nameInnocent name rfl).joined joint_blank typeInnocent
          exact List.forall_mem_cons.2 ⟨both, ih restInnocent⟩

end DataType

/-! ## Operators and other words -/

theorem opening_unaryOperator {operator : UnaryOperator} (isSymbol : operator ≠ .not) :
    Opening operator.sql := by
  cases operator with
  | not => exact absurd rfl isSymbol
  | _ => decide

theorem innocent_namedOperator {parts : List String} (innocent : ∀ part ∈ parts, Innocent part) :
    Innocent (BinaryOperator.named parts).sql := by
  refine (Opening.text ?_ (innocent_intercalate ?_ innocent)).clause clause_closeParen
    <;> decide

theorem joint_between {operator : BinaryOperator} (innocent : Innocent operator.sql) :
    Joint operator.between := by
  unfold BinaryOperator.between
  split
  · decide
  · exact
      { (joint_blank.clause innocent).append joint_blank.toClause,
        (joint_blank.toOpening.text innocent).joint joint_blank with
        nonempty := by simp }

theorem clause_test (test : Test) (negated : Bool) : Clause (test.sql negated) := by
  cases test <;> cases negated <;> decide

/-! ## Lists of parts -/

section Lists

theorem Expr.sqls_eq_map (items : List Expr) : Expr.sqls items = items.map Expr.sql := by
  induction items with
  | nil => rfl
  | cons item rest ih => exact congrArg (item.sql :: ·) ih

theorem OrderItem.sqls_eq_map (items : List OrderItem) :
    OrderItem.sqls items = items.map OrderItem.sql := by
  induction items with
  | nil => rfl
  | cons item rest ih => exact congrArg (item.sql :: ·) ih

theorem Window.sqls_eq_map (windows : List Window) : Window.sqls windows = windows.map Window.sql := by
  induction windows with
  | nil => rfl
  | cons window rest ih => exact congrArg (window.sql :: ·) ih

theorem Definition.sqls_eq_map (definitions : List Definition) :
    Definition.sqls definitions = definitions.map Definition.sql := by
  induction definitions with
  | nil => rfl
  | cons definition rest ih => exact congrArg (definition.sql :: ·) ih

theorem SelectItem.sqls_eq_map (items : List SelectItem) :
    SelectItem.sqls items = items.map SelectItem.sql := by
  induction items with
  | nil => rfl
  | cons item rest ih => exact congrArg (item.sql :: ·) ih

theorem Source.sqls_eq_map (sources : List Source) : Source.sqls sources = sources.map Source.sql := by
  induction sources with
  | nil => rfl
  | cons source rest ih => exact congrArg (source.sql :: ·) ih

theorem Join.sqls_eq_map (joins : List Join) : Join.sqls joins = joins.map Join.sql := by
  induction joins with
  | nil => rfl
  | cons join rest ih => exact congrArg (join.sql :: ·) ih

end Lists

section Exprs

variable {items : List Expr} {order : List OrderItem} {found : Option Expr} {mark : String}

theorem innocent_sqls (innocent : ∀ item ∈ items, Innocent item.sql) :
    ∀ part ∈ Expr.sqls items, Innocent part := by
  rw [Expr.sqls_eq_map, List.forall_mem_map]
  exact innocent

theorem innocent_commaSqls (innocent : ∀ item ∈ items, Innocent item.sql) :
    Innocent (commaJoined (Expr.sqls items)) :=
  innocent_commaJoined (innocent_sqls innocent)

theorem innocent_orderSqls (innocent : ∀ item ∈ order, Innocent item.sql) :
    ∀ part ∈ OrderItem.sqls order, Innocent part := by
  rw [OrderItem.sqls_eq_map, List.forall_mem_map]
  exact innocent

theorem clause_exprClause (joint : Joint mark) (innocent : ∀ value ∈ found, Innocent value.sql) :
    Clause (Expr.clause mark found) := by
  cases found with
  | none =>
      exact clause_empty
  | some value =>
      exact joint.clause (innocent value rfl)

theorem opening_leadClause (joint : Joint mark) (innocent : ∀ value ∈ found, Innocent value.sql) :
    Opening (Expr.leadClause found mark) := by
  cases found with
  | none =>
      exact opening_empty
  | some value =>
      exact (innocent value rfl).joint joint

theorem clause_filterClause (innocent : ∀ value ∈ found, Innocent value.sql) :
    Clause (Expr.filterClause found) := by
  cases found with
  | none =>
      exact clause_empty
  | some value =>
      refine Clause.append (Joint.clause ?_ (innocent value rfl)) clause_closeParen
      decide

theorem OrderItem.innocent {item : OrderItem} (key : Innocent item.key.sql) : Innocent item.sql := by
  obtain ⟨key, ascending, nullsFirst⟩ := item
  unfold OrderItem.sql
  refine (Innocent.clause key ?_).clause ?_
  · split <;> decide
  · split <;> decide

end Exprs

end Querent.Sql
