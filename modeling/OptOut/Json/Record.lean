import OptOut.Json.Value

/-!
# Records in JSON

A record is an object with known field names. Fields of other names are passed over. Read straight
from text, a record must not name a field twice, and may also be a list of its first fields in
order.
-/

namespace OptOut.Json

def Value.fieldOr {α : Type} (value : Value) (name : String) (default : α)
    (read : Value → Option α) : Option α :=
  match value.field? name with
  | none => some default
  | some field => read field

def Value.optional {α : Type} (value : Value) (name : String) (read : Value → Option α) :
    Option (Option α) :=
  value.fieldOr name none fun field =>
    match field with
    | .null => some none
    | field => (read field).map some

def Value.required {α : Type} (value : Value) (name : String) (read : Value → Option α) :
    Option α :=
  (value.field? name).bind read

/-- A number without sign, fraction or exponent, below 2 ^ 32. -/
def Value.halfWord? (value : Value) : Option UInt32 :=
  value.word?.bind fun word =>
    if word.toNat < UInt32.size then some (UInt32.ofNat word.toNat) else none

def Value.listOf? {α : Type} (read : Value → Option α) (value : Value) : Option (List α) :=
  value.list?.bind (·.mapM read)

def Value.texts? (value : Value) : Option (List String) :=
  value.listOf? Value.text?

/-- The fields of a record as an object that holds each of them once. -/
def recordOf (names : List String) : Source → Option Value
  | .object fields => do
    let named ← fields.mapM fun (name, source) => (resolveText name).map (·, source)
    let known := named.filter fun (name, _) => names.contains name
    if (known.map (·.1)).Pairwise (· ≠ ·) then
      let values ← known.mapM fun (name, source) => (interpret maximalDepth source).map (name, ·)
      some (.object values)
    else none
  | .list items =>
    if items.length ≤ names.length then do
      let values ← items.mapM (interpret maximalDepth)
      some (.object (names.zip values))
    else none
  | _ => none

def recordOfText (names : List String) (text : String) : Option Value :=
  (Source.ofText text).bind (recordOf names)

end OptOut.Json
