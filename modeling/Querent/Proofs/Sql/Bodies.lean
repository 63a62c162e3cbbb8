import Mathlib.Tactic.Tauto
import Querent.Proofs.Sql.Parts

/-!
# All bodies of a query

The bodies that stand anywhere in a query: its parts, and those of every query that is held by what
a selection reads from or by an expression of any clause, to any depth.  The bodies that are no
parts are *hidden*, for the kind of a query does not look at them.
-/

namespace Querent.Sql

mutual

/-- The bodies in an expression. -/
@[simp]
def Expr.bodies : Expr → List Body
  | .name _ => []
  | .compound _ => []
  | .literal _ => []
  | .introduced _ _ => []
  | .typed _ _ => []
  | .nested inner => inner.bodies
  | .tuple items => Expr.listBodies items
  | .array _ items => Expr.listBodies items
  | .unary _ operand => operand.bodies
  | .binary left _ right => left.bodies ++ right.bodies
  | .quantified left _ _ right => left.bodies ++ right.bodies
  | .test operand _ _ => operand.bodies
  | .distinctFrom left _ right => left.bodies ++ right.bodies
  | .inList operand _ items => operand.bodies ++ Expr.listBodies items
  | .inQuery operand _ query => operand.bodies ++ query.bodies
  | .inUnnest operand _ list => operand.bodies ++ list.bodies
  | .between operand _ low high => operand.bodies ++ low.bodies ++ high.bodies
  | .matching operand _ _ pattern _ => operand.bodies ++ pattern.bodies
  | .cast _ operand _ _ => operand.bodies
  | .extract _ operand => operand.bodies
  | .round _ operand _ => operand.bodies
  | .position needle haystack => needle.bodies ++ haystack.bodies
  | .substring operand start length =>
    operand.bodies ++ Expr.optionBodies start ++ Expr.optionBodies length
  | .overlay operand replacement start length =>
    operand.bodies ++ replacement.bodies ++ start.bodies ++ Expr.optionBodies length
  | .trim _ removed operand characters =>
    Expr.optionBodies removed ++ operand.bodies ++ Expr.listBodies characters
  | .collate operand _ => operand.bodies
  | .case operand conditions results otherwise =>
    Expr.optionBodies operand ++ Expr.listBodies conditions ++ Expr.listBodies results ++
      Expr.optionBodies otherwise
  | .exists _ query => query.bodies
  | .query query => query.bodies
  | .arrayQuery query => query.bodies
  | .call _ _ _ arguments order filter _ window =>
    Expr.listBodies arguments ++ OrderItem.listBodies order ++ Expr.optionBodies filter ++
      Window.optionBodies window
  | .argument _ value => value.bodies
  | .filtered operand condition => operand.bodies ++ condition.bodies
  | .arrayAggregate _ operand order limit =>
    operand.bodies ++ OrderItem.listBodies order ++ Expr.optionBodies limit
  | .listAggregate _ operand separator _ filler order =>
    operand.bodies ++ Expr.optionBodies separator ++ Expr.optionBodies filler ++
      OrderItem.listBodies order
  | .interval value _ _ _ _ => value.bodies
  | .grouping _ sets => Expr.listBodies sets
  | .index operand indexes => operand.bodies ++ Expr.listBodies indexes
  | .lookup operand keys => operand.bodies ++ Expr.listBodies keys
  | .field operand _ => operand.bodies
  | .atTimeZone operand _ => operand.bodies
  | .searchText _ _ _ => []
  | .record _ values => Expr.listBodies values
  | .labelled operand _ _ => operand.bodies
  | .wildcard => []
  | .qualifiedWildcard _ => []

/-- The bodies in several expressions. -/
@[simp]
def Expr.listBodies : List Expr → List Body
  | [] => []
  | e :: rest => e.bodies ++ Expr.listBodies rest

/-- The bodies in an expression that may be left out. -/
@[simp]
def Expr.optionBodies : Option Expr → List Body
  | none => []
  | some e => e.bodies

/-- The bodies in several expressions to sort by. -/
@[simp]
def OrderItem.listBodies : List OrderItem → List Body
  | [] => []
  | ⟨key, _, _⟩ :: rest => key.bodies ++ OrderItem.listBodies rest

/-- The bodies in a window. -/
@[simp]
def Window.bodies : Window → List Body
  | .named _ => []
  | .spec partition order _ start finish =>
    Expr.listBodies partition ++ OrderItem.listBodies order ++ start.bodies ++ finish.bodies

/-- The bodies in several windows. -/
@[simp]
def Window.listBodies : List Window → List Body
  | [] => []
  | window :: rest => window.bodies ++ Window.listBodies rest

/-- The bodies in a window that may be left out. -/
@[simp]
def Window.optionBodies : Option Window → List Body
  | none => []
  | some window => window.bodies

/-- The bodies in an end of a frame. -/
@[simp]
def Bound.bodies : Bound → List Body
  | .unstated => []
  | .currentRow => []
  | .preceding distance => Expr.optionBodies distance
  | .following distance => Expr.optionBodies distance

/-- The bodies that stand anywhere in a query. -/
@[simp]
def Query.bodies : Query → List Body
  | ⟨_, definitions, body, order, limit, limitBy, offset, _, _, _⟩ =>
    Definition.bodies definitions ++ body.bodies ++
      (OrderItem.listBodies order ++ Expr.optionBodies limit ++ Expr.listBodies limitBy ++
        Expr.optionBodies offset)

/-- The bodies in several defined tables. -/
@[simp]
def Definition.bodies : List Definition → List Body
  | [] => []
  | ⟨_, query, _⟩ :: rest => query.bodies ++ Definition.bodies rest

/-- The bodies that stand anywhere in a body. -/
@[simp]
def Body.bodies : Body → List Body
  | .query query => query.bodies
  | .operation _ _ left right => left.bodies ++ right.bodies
  | .select selection => .select selection :: selection.innerBodies
  | .values rowKeyword rows => .values rowKeyword rows :: Expr.listBodies rows
  | .table schema name => [.table schema name]
  | .insert text => [.insert text]
  | .update text => [.update text]

/-- The bodies that stand anywhere inside a selection. -/
@[simp]
def Select.innerBodies : Select → List Body
  | ⟨_, distinctOn, top, _, _, items, _, sources, views, condition, _, groupBy, clusterBy,
      distributeBy, sortBy, having, _, windows, qualify⟩ =>
    Expr.listBodies distinctOn ++ Expr.optionBodies top ++ SelectItem.listBodies items ++
      Source.listBodies sources ++ Source.listBodies views ++ Expr.optionBodies condition ++
      Expr.listBodies groupBy ++ Expr.listBodies clusterBy ++ Expr.listBodies distributeBy ++
      Expr.listBodies sortBy ++ Expr.optionBodies having ++ Window.listBodies windows ++
      Expr.optionBodies qualify

/-- The bodies in a selected column. -/
@[simp]
def SelectItem.bodies : SelectItem → List Body
  | .expression value => value.bodies
  | .aliased value _ => value.bodies
  | .wildcard _ _ _ _ replace => Expr.listBodies replace

/-- The bodies in several selected columns. -/
@[simp]
def SelectItem.listBodies : List SelectItem → List Body
  | [] => []
  | item :: rest => item.bodies ++ SelectItem.listBodies rest

/-- The bodies in a table and the tables joined to it. -/
@[simp]
def Source.bodies : Source → List Body
  | ⟨relation, joins⟩ => relation.bodies ++ Join.listBodies joins

/-- The bodies in several tables and the tables joined to them. -/
@[simp]
def Source.listBodies : List Source → List Body
  | [] => []
  | source :: rest => source.bodies ++ Source.listBodies rest

/-- The bodies in several joined tables. -/
@[simp]
def Join.listBodies : List Join → List Body
  | [] => []
  | ⟨_, relation, _, condition, _⟩ :: rest =>
    relation.bodies ++ Expr.optionBodies condition ++ Join.listBodies rest

/-- The bodies in something that rows are read from. -/
@[simp]
def Relation.bodies : Relation → List Body
  | .table _ _ _ arguments _ hints => Expr.listBodies arguments ++ Expr.listBodies hints
  | .derived _ query _ => query.bodies
  | .function _ arguments _ => Expr.listBodies arguments
  | .expression value _ => value.bodies
  | .unnest arrays _ _ _ => Expr.listBodies arrays
  | .nested source _ => source.bodies
  | .pivot relation aggregate _ _ _ => relation.bodies ++ aggregate.bodies
  | .unpivot relation _ _ _ _ => relation.bodies
  | .view _ value _ _ => value.bodies

end

/-! ## Parts and hidden bodies -/

mutual

/-- The bodies of a query that are none of its parts. -/
def Query.hidden : Query → List Body
  | ⟨_, definitions, body, order, limit, limitBy, offset, _, _, _⟩ =>
    Definition.hidden definitions ++ body.hidden ++
      (OrderItem.listBodies order ++ Expr.optionBodies limit ++ Expr.listBodies limitBy ++
        Expr.optionBodies offset)

/-- The bodies in several defined tables that are none of their parts. -/
def Definition.hidden : List Definition → List Body
  | [] => []
  | ⟨_, query, _⟩ :: rest => query.hidden ++ Definition.hidden rest

/-- The bodies in a body that are none of its parts. -/
def Body.hidden : Body → List Body
  | .query query => query.hidden
  | .operation _ _ left right => left.hidden ++ right.hidden
  | .select selection => selection.innerBodies
  | .values _ rows => Expr.listBodies rows
  | .table _ _ => []
  | .insert _ => []
  | .update _ => []

end

mutual

/-- Every body of a query is a part or hidden. -/
theorem Query.mem_bodies_iff (body : Body) : ∀ query : Query,
    body ∈ query.bodies ↔ body ∈ query.parts ∨ body ∈ query.hidden
  | ⟨_, definitions, main, _, _, _, _, _, _, _⟩ => by
    simp only [Query.bodies, Query.parts, Query.hidden, List.mem_append,
      Definition.mem_bodies_iff body definitions, Body.mem_bodies_iff body main]
    tauto

theorem Definition.mem_bodies_iff (body : Body) : ∀ definitions : List Definition,
    body ∈ Definition.bodies definitions ↔
      body ∈ Definition.parts definitions ∨ body ∈ Definition.hidden definitions
  | [] => by simp [Definition.bodies, Definition.parts, Definition.hidden]
  | ⟨_, query, _⟩ :: rest => by
    simp only [Definition.bodies, Definition.parts, Definition.hidden, List.mem_append,
      Query.mem_bodies_iff body query, Definition.mem_bodies_iff body rest]
    tauto

theorem Body.mem_bodies_iff (body : Body) : ∀ main : Body,
    body ∈ main.bodies ↔ body ∈ main.parts ∨ body ∈ main.hidden
  | .query query => by
    simp only [Body.bodies, Body.parts, Body.hidden, Query.mem_bodies_iff body query]
  | .operation _ _ left right => by
    simp only [Body.bodies, Body.parts, Body.hidden, List.mem_append, Body.mem_bodies_iff body left,
      Body.mem_bodies_iff body right]
    tauto
  | .select selection => by simp [Body.bodies, Body.parts, Body.hidden]
  | .values _ _ => by simp [Body.bodies, Body.parts, Body.hidden]
  | .table _ _ => by simp [Body.bodies, Body.parts, Body.hidden]
  | .insert _ => by simp [Body.bodies, Body.parts, Body.hidden]
  | .update _ => by simp [Body.bodies, Body.parts, Body.hidden]

end

/-! ## Bodies that write -/

/-- Whether a body inserts or changes rows. -/
def Body.changesRows : Body → Bool
  | .insert _ => true
  | .update _ => true
  | _ => false

/-- Whether a body is a selection whose rows are written to a table. -/
def Body.fillsTable : Body → Bool
  | .select selection => selection.target.isSome
  | _ => false

/-- Whether a body writes anything. -/
def Body.writes (body : Body) : Bool :=
  body.changesRows || body.fillsTable

theorem Body.writes_eq_false_of_isPlainSelect {body : Body} (plain : body.isPlainSelect = true) :
    body.writes = false := by
  cases body with
  | select selection =>
      cases found : selection.target with
      | none => simp [writes, changesRows, fillsTable, found]
      | some target => simp [isPlainSelect, found] at plain
  | _ => cases plain

/-- Whether no body of a list inserts or changes rows. -/
def Steady (bodies : List Body) : Prop :=
  ∀ body ∈ bodies, body.changesRows = false

@[simp]
theorem steady_nil : Steady [] := by
  simp [Steady]

@[simp]
theorem steady_append {first second : List Body} :
    Steady (first ++ second) ↔ Steady first ∧ Steady second := by
  simp only [Steady, List.mem_append]
  constructor
  · intro steady
    exact ⟨fun body member => steady body (.inl member), fun body member =>
      steady body (.inr member)⟩
  · rintro ⟨steadyFirst, steadySecond⟩ body (member | member)
    · exact steadyFirst body member
    · exact steadySecond body member

@[simp]
theorem steady_cons {body : Body} {rest : List Body} :
    Steady (body :: rest) ↔ body.changesRows = false ∧ Steady rest := by
  simp [Steady]

@[simp]
theorem steady_exprs {items : List Expr} :
    Steady (Expr.listBodies items) ↔ ∀ item ∈ items, Steady item.bodies := by
  induction items with
  | nil => simp [Expr.listBodies]
  | cons item rest ih => simp [Expr.listBodies, ih]

@[simp]
theorem steady_option {item : Option Expr} :
    Steady (Expr.optionBodies item) ↔ ∀ value ∈ item, Steady value.bodies := by
  cases item <;> simp [Expr.optionBodies]

@[simp]
theorem steady_order {items : List OrderItem} :
    Steady (OrderItem.listBodies items) ↔ ∀ item ∈ items, Steady item.key.bodies := by
  induction items with
  | nil => simp [OrderItem.listBodies]
  | cons item rest ih =>
      cases item
      simp [OrderItem.listBodies, ih]

@[simp]
theorem steady_windows {windows : List Window} :
    Steady (Window.listBodies windows) ↔ ∀ window ∈ windows, Steady window.bodies := by
  induction windows with
  | nil => simp [Window.listBodies]
  | cons window rest ih => simp [Window.listBodies, ih]

@[simp]
theorem steady_window {window : Option Window} :
    Steady (Window.optionBodies window) ↔ ∀ value ∈ window, Steady value.bodies := by
  cases window <;> simp [Window.optionBodies]

@[simp]
theorem steady_definitions {definitions : List Definition} :
    Steady (Definition.bodies definitions) ↔
      ∀ definition ∈ definitions, Steady definition.query.bodies := by
  induction definitions with
  | nil => simp [Definition.bodies]
  | cons definition rest ih =>
      cases definition
      simp [Definition.bodies, ih]

@[simp]
theorem steady_items {items : List SelectItem} :
    Steady (SelectItem.listBodies items) ↔ ∀ item ∈ items, Steady item.bodies := by
  induction items with
  | nil => simp [SelectItem.listBodies]
  | cons item rest ih => simp [SelectItem.listBodies, ih]

@[simp]
theorem steady_sources {sources : List Source} :
    Steady (Source.listBodies sources) ↔ ∀ source ∈ sources, Steady source.bodies := by
  induction sources with
  | nil => simp [Source.listBodies]
  | cons source rest ih => simp [Source.listBodies, ih]

/-- The bodies in a joined table and in what it is joined by. -/
def Join.bodies (join : Join) : List Body :=
  join.relation.bodies ++ Expr.optionBodies join.condition

@[simp]
theorem steady_joins {joins : List Join} :
    Steady (Join.listBodies joins) ↔ ∀ join ∈ joins, Steady join.bodies := by
  induction joins with
  | nil => simp [Join.listBodies]
  | cons join rest ih =>
      cases join
      simp [Join.listBodies, Join.bodies, ih, and_assoc]

end Querent.Sql
