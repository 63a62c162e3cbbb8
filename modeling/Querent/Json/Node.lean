import Querent.Json.Basic
import Querent.Json.Fault

/-!
# Documents with places

A document as it is met while a text is read from left to right: its parts in the order of the text,
with the places that messages refer to.  A text may turn out to be faulty after some of its parts
were met, so a fault is a part of its own: it stands where it is met, and nothing follows it.  A
document that was not read from a text has no places.
-/

namespace Querent.Json

mutual

/-- A document as it is met. -/
inductive Node where
  /-- A document without parts, and the place after it. -/
  | leaf (value : Json) (finish : Option Place)
  /-- A list, and the place where it starts. -/
  | array (start : Option Place) (items : Items)
  /-- A record, and the place where it starts. -/
  | object (start : Option Place) (entries : Entries)
  | broken (fault : Fault) (place : Option Place)

/-- The items of a list. -/
inductive Items where
  /-- The end of the list, and the place after it. -/
  | done (finish : Option Place)
  /-- An item, and the place after its first byte. -/
  | item (first : Option Place) (node : Node) (rest : Items)
  | broken (fault : Fault) (place : Option Place)

/-- The fields of a record. -/
inductive Entries where
  /-- The end of the record, and the place after it. -/
  | done (finish : Option Place)
  /-- A field, and the place after its name. -/
  | entry (name : String) (afterName : Option Place) (node : Node) (rest : Entries)
  | broken (fault : Fault) (place : Option Place)

end

mutual

/-- A document without places. -/
def Node.ofJson : Json → Node
  | .array items => .array none (Items.ofList items)
  | .object fields => .object none (Entries.ofList fields)
  | .null => .leaf .null none
  | .bool value => .leaf (.bool value) none
  | .integer value => .leaf (.integer value) none
  | .float value => .leaf (.float value) none
  | .string value => .leaf (.string value) none

/-- The items of a list without places. -/
def Items.ofList : List Json → Items
  | [] => .done none
  | item :: rest => .item none (Node.ofJson item) (Items.ofList rest)

/-- The fields of a record without places. -/
def Entries.ofList : List (String × Json) → Entries
  | [] => .done none
  | (name, value) :: rest => .entry name none (Node.ofJson value) (Entries.ofList rest)

end

/-- The number of items of a list. -/
def Items.count : Items → Nat
  | .done _ => 0
  | .item _ _ rest => rest.count + 1
  | .broken _ _ => 0

end Querent.Json
