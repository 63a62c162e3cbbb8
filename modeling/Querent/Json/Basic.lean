/-!
# Documents

Values of the data format that the service speaks: nothing, truth values, numbers, texts, lists and
records.  Whole numbers and floating-point numbers are told apart.  The fields of a record are kept
in the order of their names, each name once.
-/

namespace Querent

/-- A document. -/
inductive Json where
  | null
  | bool (value : Bool)
  | integer (value : Int)
  | float (value : Float)
  | string (value : String)
  | array (items : List Json)
  | object (fields : List (String × Json))
  deriving Inhabited, BEq

namespace Json

/-- Named documents. -/
abbrev Fields := List (String × Json)

/-- Adds a field to fields in the order of their names; a field of the same name is replaced. -/
def insertField (name : String) (value : Json) : Fields → Fields
  | [] => [(name, value)]
  | (other, old) :: rest =>
    if name < other then (name, value) :: (other, old) :: rest
    else if name == other then (name, value) :: rest
    else (other, old) :: insertField name value rest

/-- The fields in the order of their names; of several of one name the last one counts. -/
def sortFields (fields : Fields) : Fields :=
  fields.foldl (fun sorted field => insertField field.1 field.2 sorted) []

/-- A record with the given fields. -/
def ofFields (fields : Fields) : Json :=
  .object (sortFields fields)

/-- The document in a field, if the field is there. -/
def lookup (fields : Fields) (name : String) : Option Json :=
  List.lookup name fields

/-- A list of texts. -/
def ofStrings (texts : List String) : Json :=
  .array (texts.map .string)

/-- A text, or nothing. -/
def ofOption : Option String → Json
  | some text => .string text
  | none => .null

/-- A field that is present only if its value is. -/
def optionalField (name : String) : Option Json → Fields
  | some value => [(name, value)]
  | none => []

@[simp]
theorem insertField_nil (name : String) (value : Json) :
    insertField name value [] = [(name, value)] := rfl

@[simp]
theorem lookup_nil (name : String) : lookup [] name = none := rfl

@[simp]
theorem lookup_cons (name other : String) (value : Json) (rest : Fields) :
    lookup ((other, value) :: rest) name = if name = other then some value else lookup rest name := by
  unfold lookup
  rw [List.lookup_cons]
  by_cases same : name = other
  · simp [same]
  · rw [beq_eq_false_iff_ne.2 same, if_neg same]

/-- A field that is added is found under its name, and other fields under theirs. -/
theorem lookup_insertField (name other : String) (value : Json) (fields : Fields) :
    lookup (insertField other value fields) name =
      if name = other then some value else lookup fields name := by
  induction fields with
  | nil => rw [insertField, lookup_cons]
  | cons field rest ih =>
      obtain ⟨first, old⟩ := field
      rw [insertField]
      split
      next => rw [lookup_cons]
      next =>
        split
        next equal =>
          obtain rfl : other = first := by simpa using equal
          rw [lookup_cons, lookup_cons]
          split <;> rfl
        next different =>
          have different : other ≠ first := by simpa using different
          rw [lookup_cons, lookup_cons, ih]
          by_cases found : name = first
          · rw [if_pos found, if_pos found, if_neg (found ▸ different.symm)]
          · rw [if_neg found, if_neg found]

/-- Of several fields of one name, the last one is found. -/
theorem lookup_sortFields (name : String) (fields : Fields) :
    lookup (sortFields fields) name = lookup fields.reverse name := by
  unfold sortFields
  rw [← List.foldr_reverse]
  induction fields.reverse with
  | nil => rfl
  | cons field rest ih => rw [List.foldr_cons, lookup_insertField, ih, lookup_cons]
end Json

end Querent
