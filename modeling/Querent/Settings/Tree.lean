import Querent.Decimal.Shortest
import Querent.Json.Basic
import Querent.Toml.Scalar

/-!
# Trees of settings

Settings as they are given, before it is looked at what they are for: a tree of named parts with
values at its ends.  A value knows where it comes from.  Trees are laid over each other: where both
have named parts these are laid over each other in turn, and elsewhere the upper one counts.
-/

namespace Querent

/-- Where a value comes from. -/
inductive SettingSource where
  | file (path : String)
  | environment
  deriving DecidableEq, Repr

/-- The name of a source. -/
def SettingSource.text : SettingSource → String
  | file path => path
  | environment => "the environment"

/-- A value without parts. -/
inductive SettingValue where
  | nothing
  | boolean (value : Bool)
  | integer (value : Int)
  | float (value : Float)
  | text (value : String)

/-- A tree of settings. -/
inductive SettingTree where
  | leaf (value : SettingValue) (source : Option SettingSource)
  | list (items : List SettingTree) (source : Option SettingSource)
  | table (fields : List (String × SettingTree)) (source : Option SettingSource)

/-- A step from a tree to a part of it. -/
inductive SettingStep where
  | field (name : String)
  /-- A place in a list; a negative one is counted from the end. -/
  | index (n : Int)
  deriving DecidableEq, Repr

namespace SettingTree

/-- The tree of no settings. -/
def empty : SettingTree :=
  .table [] none

/-- A part that is not there. -/
def absent : SettingTree :=
  .leaf .nothing none

/-- The fields of a tree; a tree of another kind has none. -/
def fields : SettingTree → List (String × SettingTree)
  | table fields _ => fields
  | _ => []

/-- The items of a tree; a tree of another kind has none. -/
def items : SettingTree → List SettingTree
  | list items _ => items
  | _ => []

/-- The part with a name. -/
def field? (tree : SettingTree) (name : String) : Option SettingTree :=
  tree.fields.lookup name

/-- Puts a field into a list of fields, in the place of the one with the same name. -/
def putField (name : String) (part : SettingTree) :
    List (String × SettingTree) → List (String × SettingTree)
  | [] => [(name, part)]
  | (other, old) :: rest =>
    if other == name then (name, part) :: rest else (other, old) :: putField name part rest

/-- What is put into fields under a name is found under that name, and nothing else is changed. -/
theorem lookup_putField (name other : String) (part : SettingTree)
    (fields : List (String × SettingTree)) :
    (putField name part fields).lookup other =
      if other = name then some part else fields.lookup other := by
  induction fields with
  | nil =>
    by_cases h : other = name
    · simp [putField, h]
    · have h' : (other == name) = false := by simpa using h
      simp [putField, List.lookup_cons, h, h']
  | cons field rest ih =>
    obtain ⟨key, old⟩ := field
    by_cases hk : key = name
    · subst hk
      by_cases h : other = key
      · simp [putField, h]
      · have h' : (other == key) = false := by simpa using h
        simp [putField, List.lookup_cons, h, h']
    · have hk' : (key == name) = false := by simpa using hk
      simp only [putField, hk', Bool.false_eq_true, if_false, List.lookup_cons]
      by_cases ho : other = key
      · subst ho
        simp [hk]
      · have ho' : (other == key) = false := by simpa using ho
        simp only [ho', ih]

mutual

/-- Lays a tree over another one. -/
def above : SettingTree → SettingTree → SettingTree
  | table upper _, lower => .table (fieldsOver upper lower.fields) none
  | upper, _ => upper

/-- Lays fields over others. -/
def fieldsOver :
    List (String × SettingTree) → List (String × SettingTree) → List (String × SettingTree)
  | [], lower => lower
  | (name, part) :: rest, lower =>
    fieldsOver rest (putField name (above part ((lower.lookup name).getD absent)) lower)

end

/-- Changes the item at a place; items that are not there are added as absent ones. -/
def changeItem (n : Int) (change : SettingTree → SettingTree) (items : List SettingTree) :
    List SettingTree :=
  if 0 ≤ n then
    let padded := items ++ List.replicate (n.toNat + 1 - items.length) absent
    padded.modify n.toNat change
  else
    let back := (-n).toNat
    let padded := List.replicate (back - items.length) absent ++ items
    padded.modify (items.length - back) change

/-- Lays a tree over the part at the end of a path; what is in the way of the path is dropped. -/
def overPart (upper : SettingTree) : List SettingStep → SettingTree → SettingTree
  | [], lower => upper.above lower
  | .field name :: rest, lower =>
    let part := overPart upper rest ((lower.field? name).getD absent)
    .table (putField name part lower.fields) none
  | .index n :: rest, lower =>
    .list (changeItem n (overPart upper rest) lower.items) none

/-- Whether a character may stand in a name on a path. -/
def isNameChar (c : Char) : Bool :=
  c.isAlphanum || c == '_' || c == '-'

/-- The place that a text between brackets stands for. -/
def readIndex (text : List Char) : Option Int :=
  let (negative, digits) := match text with
    | '-' :: rest => (true, rest)
    | rest => (false, rest)
  let size : Int := Decimal.ofDigits digits
  let n := if negative then -size else size
  if digits.isEmpty || !digits.all Text.isAsciiDigit || n < -Nat.pow 2 63 || Nat.pow 2 63 ≤ n then none
  else some n

/-- At most so many steps after the first name of a path. -/
def readSteps : Nat → List Char → Option (List SettingStep)
  | 0, _ => none
  | _ + 1, [] => some []
  | count + 1, '.' :: rest =>
    let name := rest.takeWhile isNameChar
    if name.isEmpty then none
    else
      (readSteps count (rest.drop name.length)).map (.field (String.ofList name) :: ·)
  | count + 1, '[' :: rest => do
    let inner := rest.takeWhile (· != ']')
    let n ← readIndex inner
    if (rest.drop inner.length).isEmpty then none
    else (readSteps count (rest.drop (inner.length + 1))).map (.index n :: ·)
  | _ + 1, _ => none

/-- The path that a key stands for: names with points between them, and places in brackets. -/
def readPath (key : String) : Option (List SettingStep) :=
  let text := key.toList
  let name := text.takeWhile isNameChar
  if name.isEmpty then none
  else
    (readSteps (text.length + 1) (text.drop name.length)).map (.field (String.ofList name) :: ·)

/-- The path to a setting with a key; a key that stands for no path is a name as a whole. -/
def pathOf (key : String) : List SettingStep :=
  (readPath key).getD [.field key]

/-- Lays settings with their keys over a tree, one after the other. -/
def withLayer (tree : SettingTree) (layer : List (String × SettingTree)) : SettingTree :=
  layer.foldl (fun tree (key, part) => part.overPart (pathOf key) tree) tree

end SettingTree

end Querent
