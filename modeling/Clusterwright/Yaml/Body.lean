import Clusterwright.Failure
import Clusterwright.Yaml.Value

/-!
# Reading section bodies

The body of a section is a value that has been read already; what does not fit has no place any
more. Tags are looked through. A record is a mapping with known fields; null stands for a mapping
without any. A body that is null altogether keeps what was configured before.
-/

namespace Clusterwright.Yaml

/-- Reads a value of a type. -/
abbrev Reader (α : Type) := Value → Except Mismatch α

namespace Body

/-- Says that a value is not what was expected. -/
def refuse {α : Type} (expected : String) (v : Value) : Except Mismatch α :=
  .error (.wrongType v.untagged.found expected)

/-- A text. -/
def text : Reader String := fun v =>
  match v.untagged with
  | .text s => .ok s
  | _ => refuse "a string" v

/-- A truth value. -/
def bool : Reader Bool := fun v =>
  match v.untagged with
  | .bool b => .ok b
  | _ => refuse "a boolean" v

/-- A whole number of at most `limit`, under a name for the complaint. -/
def natural (name : String) (limit : Nat) : Reader Nat := fun v =>
  match v.untagged with
  | .int n =>
    if 0 ≤ n ∧ n ≤ (limit : Int) then .ok n.toNat else .error (.wrongValue (.int n) name)
  | _ => refuse name v

/-- A whole number of at most 32 bits. -/
def word32 : Reader Nat := natural "u32" Text.maxWord32

/-- A whole number of at most 64 bits. -/
def size : Reader Nat := natural "usize" Text.maxWord64

/-- A value that may be left out by writing null. -/
def optional {α : Type} (inner : Reader α) : Reader (Option α)
  | .null => .ok none
  | v => (inner v).map some

/-- A list. -/
def list {α : Type} (item : Reader α) : Reader (List α) := fun v =>
  match v.untagged with
  | .list items => items.mapM item
  | .null => .ok []
  | _ => refuse "a sequence" v

/-- A mapping from texts. -/
def textMap {α : Type} (item : Reader α) : Reader (SortedMap α) := fun v =>
  match v.untagged with
  | .map entries =>
    entries.foldlM (fun (m : SortedMap α) (k, v) => do
      let key ← text k
      return m.insert key (← item v)) .empty
  | .null => .ok .empty
  | _ => refuse "a map" v

/-- A field of a record of type `σ`. -/
structure Field (σ : Type) where
  name : String
  required : Bool
  read : Value → σ → Except Mismatch σ

/-- A field that may be missing. -/
def field {σ α : Type} (name : String) (read : Reader α) (set : α → σ → σ) : Field σ :=
  ⟨name, false, fun v record => (read v).map fun a => set a record⟩

/-- A field that must not be missing. -/
def required {σ α : Type} (name : String) (read : Reader α) (set : α → σ → σ) : Field σ :=
  { field name read set with required := true }

/-- The name of a field. -/
def fieldName (k : Value) : Except Mismatch String :=
  match k.untagged with
  | .text s => .ok s
  | _ => refuse "field identifier" k

/-- The entries of a mapping, as fields of a record; `seen` lists the fields read so far. -/
def entries {σ : Type} (fields : List (Field σ)) :
    List (Value × Value) → List String → σ → Except Mismatch σ
  | [], seen, record =>
    match fields.find? fun f => f.required && !seen.contains f.name with
    | some field => .error (.missingField field.name)
    | none => .ok record
  | (k, v) :: rest, seen, record => do
    let name ← fieldName k
    match fields.find? (·.name = name) with
    | none => .error (.unknownField name (fields.map (·.name)))
    | some field =>
      if seen.contains name then .error (.duplicateField name)
      else entries fields rest (name :: seen) (← field.read v record)

/-- A record, built up from a blank one. -/
def record {σ : Type} (what : String) (fields : List (Field σ)) (blank : σ) : Reader σ := fun v =>
  match v.untagged with
  | .map members => entries fields members [] blank
  | .null => entries fields [] [] blank
  | _ => refuse what v

/-- Reads a body, unless it is null: then the present value stays. -/
def decode {α : Type} (read : Reader α) (present : α) (body : Value) : Except Mismatch α :=
  match body.untagged with
  | .null => .ok present
  | _ => read body

end Body

end Clusterwright.Yaml
