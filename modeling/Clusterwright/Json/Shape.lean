import Clusterwright.Json.Skim

/-!
# Records in JSON

Reading records straight from JSON text, with the place of a mismatch, and from JSON values, without
one. A record is written as an object, whose unknown members are skipped, or as the list of its
fields in order. A shape says how to go on from one field to the next; `Field` and `ValueField` name
a field and say how its value enters the record under construction.
-/

namespace Clusterwright.Json

/-- What a value is, where something else was expected. -/
def found : Json → Found
  | .null => .unit
  | .bool b => .bool b
  | .int n => .int n
  | .float x => .float x
  | .text s => .text s
  | .list _ => .list
  | .object _ => .map

/-! ## From text -/

/-- A shape reads a value of a type; the numbers bound the steps and the levels of nesting. -/
abbrev Shape (α : Type) := Nat → Nat → Reader α

/-- Complains about the shape of a value; the place is filled in by the enclosing list or object. -/
def misshapen {α : Type} (m : Mismatch) : Reader α := throw ⟨.mismatch m, none⟩

/-- Reads what comes next only to say that it is not what was expected. -/
def refuse {α : Type} (expected : String) (fuel : Nat) : Reader α := do
  match ← peekToken with
  | some '[' => failAt .list
  | some '\x7b' => failAt .map
  | _ => do
    let j ← value fuel maxDepth
    failAt (found j)
where
  /-- Complains where the cursor stands. -/
  failAt (f : Found) : Reader α := failHere (.mismatch (.wrongType f expected))

/-- Runs a reader between brackets. A complaint without a place gets that of the closing bracket, or
of what stands in its stead. -/
def enclosed {α : Type} (closing : Reader Unit) (body : Reader α) : Reader α := do
  eat
  try
    let a ← body
    closing
    return a
  catch fault =>
    match fault.place with
    | some _ => throw fault
    | none =>
      try closing catch _ => pure ()
      throw ⟨fault.complaint, some (← get).place⟩

/-- Moves past the bracket that closes a list. -/
def closeList : Reader Unit := do
  match ← peekToken with
  | some ']' => eat
  | some ',' =>
    eat
    match ← peekToken with
    | some ']' => failNext .trailingComma
    | _ => failNext .trailingCharacters
  | some _ => failNext .trailingCharacters
  | none => failNext .endInList

/-- Moves past the brace that closes an object. -/
def closeObject : Reader Unit := do
  match ← peekToken with
  | some '\x7d' => eat
  | some ',' => failNext .trailingComma
  | some _ => failNext .trailingCharacters
  | none => failNext .endInObject

/-- Goes one level deeper, if that is allowed. -/
def deeper {α : Type} (depth : Nat) (inner : Nat → Reader α) : Reader α :=
  if depth ≤ 1 then failNext .tooDeep else inner (depth - 1)

/-- A text. -/
def textShape : Shape String := fun fuel _ => do
  match ← peekToken with
  | none => failNext .endInValue
  | some '"' => do eat; textBody
  | some _ => refuse "a string" fuel

/-- The items of a list, all of one shape. -/
def listItems {α : Type} (item : Shape α) : Nat → Nat → Bool → Reader (List α)
  | 0, _, _ => failNext .endInList
  | fuel + 1, depth, first => do
    if ← nextItem first then
      let a ← item fuel depth
      return a :: (← listItems item fuel depth false)
    else return []

/-- A list whose items have one shape. -/
def listShape {α : Type} (item : Shape α) : Shape (List α) := fun fuel depth => do
  match ← peekToken with
  | none => failNext .endInValue
  | some '[' => deeper depth fun depth => enclosed closeList (listItems item fuel depth true)
  | some _ => refuse "a sequence" fuel

/-- A field of a record of type `σ`. -/
structure Field (σ : Type) where
  name : String
  required : Bool
  read : Nat → Nat → σ → Reader σ

/-- The members of an object, as fields of a record; `seen` lists the fields read so far. -/
def recordMembers {σ : Type} (fields : List (Field σ)) :
    Nat → Nat → Bool → List String → σ → Reader σ
  | 0, _, _, _, _ => failNext .endInObject
  | fuel + 1, depth, first, seen, record => do
    if ← nextMember first then
      eat
      let key ← textBody
      match fields.find? (·.name = key) with
      | some field =>
        if seen.contains key then misshapen (.duplicateField key)
        else
          colon
          let record ← field.read fuel depth record
          recordMembers fields fuel depth false (key :: seen) record
      | none =>
        colon
        skimValue fuel
        recordMembers fields fuel depth false seen record
    else
      match fields.find? fun f => f.required && !seen.contains f.name with
      | some field => misshapen (.missingField field.name)
      | none => return record

/-- The items of a list, as the fields of a record in order. -/
def recordItems {σ : Type} (expected : String) (fuel depth : Nat) :
    List (Field σ) → Nat → σ → Reader σ
  | [], _, record => return record
  | field :: rest, index, record => do
    if ← nextItem (index = 0) then
      let record ← field.read fuel depth record
      recordItems expected fuel depth rest (index + 1) record
    else if field.required then misshapen (.wrongLength index expected)
    else return record

/-- The name of a record with its number of fields. -/
def expectedFields (what : String) (count : Nat) : String :=
  what ++ " with " ++ toString count ++ (if count = 1 then " element" else " elements")

/-- A record, built up from a blank one. -/
def recordShape {σ : Type} (what : String) (fields : List (Field σ)) (blank : σ) : Shape σ :=
  fun fuel depth => do
    match ← peekToken with
    | none => failNext .endInValue
    | some '[' =>
      let expected := expectedFields what fields.length
      deeper depth fun depth => enclosed closeList (recordItems expected fuel depth fields 0 blank)
    | some '\x7b' =>
      deeper depth fun depth => enclosed closeObject (recordMembers fields fuel depth true [] blank)
    | some _ => refuse what fuel

/-- Reads a whole text as one value of a shape. -/
def parseAs {α : Type} (shape : Shape α) (text : String) : Except Fault α :=
  runReader (do shape (2 * (← get).rest.length + 2) maxDepth) text

/-! ## From values -/

/-- A field of a record that is read from values. -/
structure ValueField (σ : Type) where
  name : String
  read : Json → σ → Except Mismatch σ

/-- A text. -/
def asText : Json → Except Mismatch String
  | .text s => .ok s
  | j => .error (.wrongType (found j) "a string")

/-- A whole number of at most 32 bits. -/
def asWord32 : Json → Except Mismatch Nat
  | .int n =>
    if 0 ≤ n ∧ n ≤ (Text.maxWord32 : Int) then .ok n.toNat else .error (.wrongValue (.int n) "u32")
  | j => .error (.wrongType (found j) "u32")

/-- A list whose items have one shape. -/
def asList {α : Type} (item : Json → Except Mismatch α) : Json → Except Mismatch (List α)
  | .list items => items.mapM item
  | j => .error (.wrongType (found j) "a sequence")

/-- Fills the fields of a record from a list. -/
def fieldsOfItems {σ : Type} (what : String) (count : Nat) :
    List (ValueField σ) → List Json → Nat → σ → Except Mismatch σ
  | [], [], _, record => .ok record
  | [], extra, index, _ =>
    .error (.wrongLength (index + extra.length) "fewer elements in array")
  | _ :: _, [], index, _ => .error (.wrongLength index (expectedFields what count))
  | field :: fields, j :: rest, index, record => do
    fieldsOfItems what count fields rest (index + 1) (← field.read j record)

/-- A record whose fields are all required. -/
def asRecord {σ : Type} (what : String) (fields : List (ValueField σ)) (blank : σ) :
    Json → Except Mismatch σ
  | .list items => fieldsOfItems what fields.length fields items 0 blank
  | .object members => do
    let record ← members.foldlM (fun record (key, j) =>
      match fields.find? (·.name = key) with
      | some field => field.read j record
      | none => .ok record) blank
    match fields.find? fun f => (members.lookup f.name).isNone with
    | some field => .error (.missingField field.name)
    | none => .ok record
  | j => .error (.wrongType (found j) what)

end Clusterwright.Json
