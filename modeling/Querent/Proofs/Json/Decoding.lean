import Querent.Proofs.Json.Magnitude
import Querent.Proofs.Json.Reading

/-!
# Decoding records

A record is decoded field by field into the values known so far.  A known field that was not met
before changes them by what its own decoder yields, and a property of the values that every field of
a record keeps holds of those from which the record is made up in the end.
-/

namespace Querent.Json

/-- The fields of a record with their documents as they are met, up to the first fault. -/
def Entries.fields : Entries → List (String × Node)
  | .done _ => []
  | .entry name _ node rest => (name, node) :: rest.fields
  | .broken _ _ => []

theorem Entries.shows_ofList {fields : Fields}
    (leaves : ∀ field ∈ fields, Node.ofJson field.2 = .leaf field.2 none) :
    (Entries.ofList fields).Shows fields := by
  induction fields with
  | nil => exact trivial
  | cons field fields ih =>
    rw [Entries.ofList, leaves field List.mem_cons_self]
    exact ⟨rfl, rfl, ih fun other member => leaves other (List.mem_cons_of_mem field member)⟩

theorem Entries.fields_ofList (fields : Fields) :
    (Entries.ofList fields).fields = fields.map fun field => (field.1, Node.ofJson field.2) := by
  induction fields with
  | nil => rfl
  | cons field fields ih => rw [Entries.ofList, Entries.fields, ih, List.map_cons]

theorem Node.ofJson_eq_string {value : Json} {text : String} {finish : Option Place}
    (same : Node.ofJson value = .leaf (.string text) finish) : value = .string text := by
  cases value <;> cases same
  rfl

/-- No whole number above 64 bits stands in a field of a record without such numbers. -/
theorem Entries.fitsWord_of_mem :
    ∀ {entries : Entries}, entries.FitWords →
      ∀ {name : String} {node : Node}, (name, node) ∈ entries.fields → node.FitsWord
  | .done _, _, _, _, member => nomatch member
  | .broken _ _, _, _, _, member => nomatch member
  | .entry _ _ _ rest, ⟨first, later⟩, _, _, member => by
    rcases List.mem_cons.1 member with same | member
    · cases same
      exact first
    · exact fitsWord_of_mem later member

namespace Decoder

variable {σ α : Type} {shape : Shape σ α}

/-- A known field that was not met before changes the values known so far. -/
theorem entriesInto_entry {state : σ} {seen : List String} {name : String}
    {afterName : Option Place} {node : Node} {rest : Entries} {field : Field σ} {change : σ → σ}
    (known : shape.fields.find? (·.name == name) = some field) (new : seen.contains name = false)
    (decoded : field.decode node = .ok change) :
    entriesInto shape state seen (.entry name afterName node rest) =
      entriesInto shape (change state) (name :: seen) rest := by
  rw [entriesInto, known]
  simp only [new, Bool.false_eq_true, if_false, decoded]
  rfl

/-- A record that shows a known field is decoded on after the field. -/
theorem entriesInto_of_shows_cons {entries : Entries} {name : String} {value : Json}
    {fields : Fields} (shows : entries.Shows ((name, value) :: fields)) {state : σ}
    {seen : List String} {field : Field σ} {change : σ → σ} {result : Decoded α}
    (known : shape.fields.find? (·.name == name) = some field) (new : seen.contains name = false)
    (decoded : ∀ finish, field.decode (.leaf value finish) = .ok change)
    (later : ∀ rest : Entries, rest.Shows fields →
      entriesInto shape (change state) (name :: seen) rest = result) :
    entriesInto shape state seen entries = result := by
  obtain ⟨afterName, finish, rest, rfl, more⟩ := Entries.shows_cons shows
  rw [entriesInto_entry known new (decoded finish)]
  exact later rest more

theorem entriesInto_of_shows_nil {entries : Entries} (shows : entries.Shows []) {state : σ}
    {seen : List String} {value : α} (finished : shape.finish state = .ok value) :
    entriesInto shape state seen entries = .ok value := by
  obtain ⟨finish, rfl⟩ := Entries.shows_nil shows
  rw [entriesInto, finished]

theorem inside_eq_ok {β : Type} {step : Step} {result : Decoded β} {value : β} :
    inside step result = .ok value ↔ result = .ok value := by
  cases result with
  | error fault => exact ⟨nofun, nofun⟩
  | ok found => exact Iff.rfl

/-- What every field of a record keeps is true of the values that make up the result. -/
theorem entriesInto_invariant (invariant : σ → Prop) :
    ∀ {entries : Entries} {state : σ} {seen : List String} {value : α},
      (∀ field ∈ shape.fields, ∀ node, (field.name, node) ∈ entries.fields →
        ∀ change, field.decode node = .ok change →
          ∀ state, invariant state → invariant (change state)) →
      invariant state → entriesInto shape state seen entries = .ok value →
        ∃ final, invariant final ∧ shape.finish final = .ok value
  | .done finish, state, seen, value, _, start, decoded => by
    rw [entriesInto] at decoded
    split at decoded
    next found =>
      obtain rfl := Except.ok.inj decoded
      exact ⟨state, start, found⟩
    next => cases decoded
  | .broken fault place, state, seen, value, _, _, decoded => by
    rw [entriesInto, inside_eq_ok] at decoded
    cases decoded
  | .entry name afterName node rest, state, seen, value, kept, start, decoded => by
    have later : ∀ field ∈ shape.fields, ∀ node, (field.name, node) ∈ rest.fields →
        ∀ change, field.decode node = .ok change →
          ∀ state, invariant state → invariant (change state) :=
      fun field known node member => kept field known node (List.mem_cons_of_mem _ member)
    rw [entriesInto] at decoded
    split at decoded
    next =>
      cases ignoredNode : inside (.field name) (ignored node) with
      | error error => rw [ignoredNode] at decoded; cases decoded
      | ok done =>
        rw [ignoredNode] at decoded
        exact entriesInto_invariant invariant later start decoded
    next field found =>
      split at decoded
      next => cases decoded
      next =>
        cases result : inside (.field name) (field.decode node) with
        | error error => rw [result] at decoded; cases decoded
        | ok change =>
          rw [result] at decoded
          obtain rfl : field.name = name := by simpa using List.find?_some found
          have change_ok := inside_eq_ok.1 result
          have changed := kept field (List.mem_of_find?_eq_some found) node List.mem_cons_self
            change change_ok state start
          exact entriesInto_invariant invariant later changed decoded

theorem required_decode_eq_ok {β : Type} {name : String} {decoder : Decoder β} {put : β → σ → σ}
    {node : Node} {change : σ → σ} :
    (required name decoder put).decode node = .ok change ↔
      ∃ value, decoder node = .ok value ∧ change = put value := by
  cases result : decoder node <;> simp [required, result, Functor.map, Except.map, eq_comm]

theorem wrongType_ne_ok {β : Type} {expected : String} {node : Node} {value : β} :
    wrongType expected node ≠ .ok value := by
  cases node <;> nofun

theorem natural_eq_ok {type : String} {node : Node} {n : Nat} (decoded : natural type node = .ok n) :
    ∃ finish, node = .leaf (.integer n) finish := by
  unfold natural at decoded
  split at decoded
  next value finish =>
    split at decoded
    next positive =>
      obtain rfl := Except.ok.inj decoded
      exact ⟨finish, by rw [Int.toNat_of_nonneg positive]⟩
    next => cases decoded
  next => exact absurd decoded wrongType_ne_ok

end Decoder

theorem decodeText_eq_ok {α : Type} {decoder : Decoder α} {text : String} {value : α}
    (decoded : decodeText decoder text = .ok value) : decoder (Json.read text).node = .ok value := by
  simp only [decodeText] at decoded
  split at decoded
  next => cases decoded
  next found =>
    split at decoded
    next =>
      obtain rfl := Except.ok.inj decoded
      exact found
    next => cases decoded

end Querent.Json
