import Querent.Json.Reader
import Querent.Json.Printer

/-!
# Decoding documents

From a document to a value of a known shape.  A decoder goes through a document in the order of its
text and stops at the first thing that is wrong, be it a fault of the text or a part of the wrong
shape.  An error tells the way to the part and, for a document that was read from a text, the place.
-/

namespace Querent.Json

/-- A step on the way to a part of a document. -/
inductive Step where
  | index (n : Nat)
  | field (name : String)
  /-- Between two fields, where no name is known. -/
  | unknown
  deriving DecidableEq, Repr

/-- What is wrong with a document. -/
inductive Cause where
  | fault (fault : Fault)
  | shape (wording : String)
  deriving DecidableEq, Repr

/-- Why a document cannot be decoded. -/
structure DecodeError where
  path : List Step
  cause : Cause
  place : Option Place
  deriving DecidableEq, Repr

namespace DecodeError

/-- The wording of an error, with the place but without the way to it. -/
def message (error : DecodeError) : String :=
  (match error.cause with
    | .fault fault => fault.message
    | .shape wording => wording) ++
  (match error.place with
    | some place => place.text
    | none => "")

/-- The way to the part, with a point before each name but the first. -/
def pathText (path : List Step) : String :=
  (path.foldl step ("", false)).1
where
  /-- Adds a step to the way so far, which may be empty. -/
  step : String × Bool → Step → String × Bool
    | (text, _), .index n => (text ++ "[" ++ toString n ++ "]", true)
    | (text, started), .field name => (text ++ (if started then "." else "") ++ name, true)
    | (text, started), .unknown => (text ++ (if started then "." else "") ++ "?", true)

/-- The wording of an error, with the way to the part unless nothing is known of it. -/
def located (error : DecodeError) : String :=
  if error.path.all (· == .unknown) then error.message
  else pathText error.path ++ ": " ++ error.message

/-- An error in a part is an error in the whole, one step further away. -/
def within (step : Step) (error : DecodeError) : DecodeError :=
  { error with path := step :: error.path }

end DecodeError

/-- The value of a document of the right shape, or what is wrong with it. -/
abbrev Decoded (α : Type) := Except DecodeError α

/-- From a document to a value. -/
abbrev Decoder (α : Type) := Node → Decoded α

/-- A fault of the text. -/
def faulty {α : Type} (fault : Fault) (place : Option Place) : Decoded α :=
  .error ⟨[], .fault fault, place⟩

/-- A part of the wrong shape. -/
def misshapen {α : Type} (wording : String) (place : Option Place) : Decoded α :=
  .error ⟨[], .shape wording, place⟩

/-- What a decoder yields at a step further down. -/
def inside {α : Type} (step : Step) (result : Decoded α) : Decoded α :=
  result.mapError (DecodeError.within step)

/-- How a character is shown in the text of an error. -/
def shownChar (c : Char) : List Char :=
  match c with
  | '"' => ['\\', '"']
  | '\\' => ['\\', '\\']
  | '\n' => ['\\', 'n']
  | '\r' => ['\\', 'r']
  | '\t' => ['\\', 't']
  | c =>
    if c.toNat == 0 then ['\\', '0']
    else if c.toNat < 32 || c.toNat == 127 then
      "\\u\x7b".toList ++ (Nat.toDigits 16 c.toNat) ++ ['\x7d']
    else [c]

/-- How a document is named in an error about its shape. -/
def found (value : Json) : String :=
  match value with
  | .null => "null"
  | .bool value => "boolean \x60" ++ (if value then "true" else "false") ++ "\x60"
  | .integer value => "integer \x60" ++ toString value ++ "\x60"
  | .float value => "floating point \x60" ++ Decimal.shortestText value ++ "\x60"
  | .string value => "string \"" ++ String.ofList (value.toList.flatMap shownChar) ++ "\""
  | .array _ => "sequence"
  | .object _ => "map"

/-- The error for a document of the wrong type. -/
def wrongType {α : Type} (expected : String) : Node → Decoded α
  | .leaf value finish => misshapen ("invalid type: " ++ found value ++ ", expected " ++ expected) finish
  | .array start _ => misshapen ("invalid type: sequence, expected " ++ expected) start
  | .object start _ => misshapen ("invalid type: map, expected " ++ expected) start
  | .broken fault place => faulty fault place

namespace Decoder

/-- A text. -/
def string : Decoder String
  | .leaf (.string value) _ => .ok value
  | node => wrongType "a string" node

/-- A whole number that is not negative and fits into 64 bits, of a type with the given name. -/
def natural (type : String) : Decoder Nat
  | .leaf (.integer value) finish =>
    if 0 ≤ value then .ok value.toNat
    else misshapen ("invalid value: integer \x60" ++ toString value ++ "\x60, expected " ++ type) finish
  | node => wrongType type node

/-- A value that may be absent. -/
def optional {α : Type} (decoder : Decoder α) : Decoder (Option α)
  | .leaf .null _ => .ok none
  | node => some <$> decoder node

/-- The items of a list from a given number on. -/
def itemsFrom {α : Type} (decoder : Decoder α) : Nat → Items → Decoded (List α)
  | _, .done _ => .ok []
  | _, .broken fault place => faulty fault place
  | n, .item _ node rest => do
    let first ← inside (.index n) (decoder node)
    return first :: (← itemsFrom decoder (n + 1) rest)

/-- A list. -/
def list {α : Type} (decoder : Decoder α) : Decoder (List α)
  | .array _ items => itemsFrom decoder 0 items
  | node => wrongType "a sequence" node

mutual

/-- Any document. -/
def any : Node → Decoded Json
  | .leaf value _ => .ok value
  | .broken fault place => faulty fault place
  | .array _ items => Json.array <$> anyItems 0 items
  | .object _ entries => (fun fields => Json.ofFields fields) <$> anyEntries entries

/-- The items of any list, from a given number on. -/
def anyItems : Nat → Items → Decoded (List Json)
  | _, .done _ => .ok []
  | _, .broken fault place => faulty fault place
  | n, .item _ node rest => do
    let first ← inside (.index n) (any node)
    return first :: (← anyItems (n + 1) rest)

/-- The fields of any record, in the order of the text. -/
def anyEntries : Entries → Decoded (List (String × Json))
  | .done _ => .ok []
  | .broken fault place => inside .unknown (faulty fault place)
  | .entry name _ node rest => do
    let value ← inside (.field name) (any node)
    return (name, value) :: (← anyEntries rest)

end

/-- A record with any fields. -/
def fields : Decoder Fields
  | .object _ entries => sortFields <$> anyEntries entries
  | node => wrongType "a map" node

/-- A document that is passed over, as long as its text has no fault. -/
def ignored (node : Node) : Decoded Unit :=
  match any node with
  | .ok _ => .ok ()
  | .error error => .error { error with path := [] }

/-- A field of a record: how it is decoded into the values known so far. -/
structure Field (σ : Type) where
  name : String
  decode : Decoder (σ → σ)
  /-- Whether the field may be missing at the end of a record that is written as a list. -/
  optional : Bool

/-- The shape of a record: its name, its fields and what they make up. -/
structure Shape (σ α : Type) where
  name : String
  fields : List (Field σ)
  start : σ
  /-- The value that the fields make up, or the name of a field that is missing. -/
  finish : σ → Except String α

variable {σ α : Type}

/-- The fields of a record, given the values and the names that are known so far. -/
def entriesInto (shape : Shape σ α) : σ → List String → Entries → Decoded α
  | state, _, .done finish =>
    match shape.finish state with
    | .ok value => .ok value
    | .error name => misshapen ("missing field \x60" ++ name ++ "\x60") finish
  | _, _, .broken fault place => inside .unknown (faulty fault place)
  | state, seen, .entry name afterName node rest =>
    match shape.fields.find? (·.name == name) with
    | none => do
      inside (.field name) (ignored node)
      entriesInto shape state seen rest
    | some field =>
      if seen.contains name then misshapen ("duplicate field \x60" ++ name ++ "\x60") afterName
      else do
        let change ← inside (.field name) (field.decode node)
        entriesInto shape (change state) (name :: seen) rest

/-- The end of a record that is written as a list. -/
def endOfItems (all : Nat) : Items → Decoded Unit
  | .done _ => .ok ()
  | .item (some first) _ _ => faulty .trailingCharacters (some first)
  | .item none _ _ =>
    misshapen ("invalid length " ++ toString all ++ ", expected fewer elements in array") none
  | .broken fault place =>
    if fault == .commaOrBracketExpected || fault == .valueEnds then
      faulty .trailingCharacters place
    else faulty fault place

/-- The number of fields in words. -/
def elementCount (n : Nat) : String :=
  if n == 1 then "1 element" else toString n ++ " elements"

/-- The fields of a record that is written as a list, in the order of their declaration. -/
def itemsInto (shape : Shape σ α) (all : Nat) : Nat → List (Field σ) → σ → Items → Decoded σ
  | _, [], state, items => do
    endOfItems all items
    return state
  | n, field :: rest, state, items =>
    match items with
    | .done finish =>
      if field.optional then itemsInto shape all (n + 1) rest state items
      else
        misshapen ("invalid length " ++ toString n ++ ", expected struct " ++ shape.name ++
          " with " ++ elementCount shape.fields.length) finish
    | .broken fault place => faulty fault place
    | .item _ node more => do
      let change ← inside (.index n) (field.decode node)
      itemsInto shape all (n + 1) rest (change state) more

/-- A record of a known shape, written as a record or as a list of its fields. -/
def record (shape : Shape σ α) : Decoder α
  | .object _ entries => entriesInto shape shape.start [] entries
  | .array start items => do
    let state ← itemsInto shape items.count 0 shape.fields shape.start items
    match shape.finish state with
    | .ok value => return value
    | .error name => misshapen ("missing field \x60" ++ name ++ "\x60") start
  | node => wrongType ("struct " ++ shape.name) node

/-- A field that must be there once. -/
def required {β : Type} (name : String) (decoder : Decoder β) (put : β → σ → σ) : Field σ :=
  ⟨name, fun node => put <$> decoder node, false⟩

/-- A field that may be missing. -/
def defaulted {β : Type} (name : String) (decoder : Decoder β) (put : β → σ → σ) : Field σ :=
  ⟨name, fun node => put <$> decoder node, true⟩

/-- The names of choices for an error. -/
def choiceText {β : Type} (choices : List (String × β)) : String :=
  let names := choices.map fun choice => "\x60" ++ choice.1 ++ "\x60"
  match names with
  | [only] => only
  | [first, second] => first ++ " or " ++ second
  | _ => "one of " ++ ", ".intercalate names

/-- The choice with a name, which ends at a place. -/
def choiceOf {β : Type} (choices : List (String × β)) (name : String) (finish : Option Place) :
    Decoded β :=
  match choices.lookup name with
  | some value => .ok value
  | none =>
    misshapen ("unknown variant \x60" ++ name ++ "\x60, expected " ++ choiceText choices) finish

/-- One of several choices by its name, which may be the only name in a record of nothing. -/
def choice {β : Type} (choices : List (String × β)) : Decoder β
  | .leaf (.string name) finish => choiceOf choices name finish
  | .object _ (.entry name finish node (.done _)) => do
    let value ← choiceOf choices name finish
    match node with
    | .leaf .null _ => return value
    | node => wrongType "unit" node
  | .object start _ => misshapen "invalid value: map, expected map with a single key" start
  | node => wrongType "string or map" node

/-- The value of a field, or the name of the field if it is missing. -/
def need {β : Type} (name : String) : Option β → Except String β
  | some value => .ok value
  | none => .error name

end Decoder

/-- Why a text does not hold a value of a known shape. -/
inductive TextError where
  | decoding (error : DecodeError)
  /-- Something follows the document. -/
  | trailing (place : Place)
  deriving DecidableEq, Repr

/-- The wording of an error, without the way to it. -/
def TextError.message : TextError → String
  | decoding error => error.message
  | trailing place => Fault.message .trailingCharacters ++ place.text

/-- The wording of an error, with the way to it. -/
def TextError.located : TextError → String
  | decoding error => error.located
  | trailing place => Fault.message .trailingCharacters ++ place.text

/-- Whether the text itself is faulty, and not only of the wrong shape. -/
def TextError.isFault : TextError → Bool
  | decoding ⟨_, .fault _, _⟩ => true
  | decoding ⟨_, .shape _, _⟩ => false
  | trailing _ => true

/-- Reads and decodes a text. -/
def decodeText {α : Type} (decoder : Decoder α) (text : String) : Except TextError α :=
  let reading := read text
  match decoder reading.node with
  | .error error => .error (.decoding error)
  | .ok value =>
    match reading.trailing with
    | none => .ok value
    | some place => .error (.trailing place)

/-- Decodes a document that was not read from a text. -/
def decodeValue {α : Type} (decoder : Decoder α) (value : Json) : Except DecodeError α :=
  decoder (Node.ofJson value)

/-- The document that a text holds. -/
def parse (text : String) : Except TextError Json :=
  decodeText Decoder.any text

end Querent.Json
