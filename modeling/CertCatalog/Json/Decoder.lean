import CertCatalog.Json.Number
import CertCatalog.Text.Decimal

/-!
# Values from JSON

Reading typed values.  A record is an object with named fields, in any order and among other fields,
or an array that holds the fields in their order.
-/

namespace CertCatalog.Json

/-! ## Scalars -/

def text? : Json → Option String
  | .string text => text
  | _ => none

def bool? : Json → Option Bool
  | .bool value => some value
  | _ => none

def nat? (bound : Nat) : Json → Option Nat
  | .number literal => naturalBelow? bound literal
  | _ => none

def list? {α : Type} (item : Json → Option α) : Json → Option (List α)
  | .array items => items.mapM item
  | _ => none

def nullable? {α : Type} (value : Json → Option α) : Json → Option (Option α)
  | .null => some none
  | json => (value json).map some

/-! ## Records -/

def uniqueField? (fields : List (Option String × Json)) (name : String) : Option (Option Json) :=
  match fields.filter (·.1 == some name) with
  | [] => some none
  | [(_, value)] => some (some value)
  | _ => none

def namedFields? (fields : List (Option String × Json)) (names : List String) :
    Option (List (Option Json)) :=
  if fields.all (·.1.isSome) then names.mapM (uniqueField? fields) else none

/-- The values of the fields of a record; `none` in the list is a field that is left out. -/
def record? (names : List String) : Json → Option (List (Option Json))
  | .object fields => namedFields? fields names
  | .array items =>
      if items.length ≤ names.length then
        some (items.map some ++ List.replicate (names.length - items.length) none)
      else none
  | _ => none

def required? {α : Type} (value : Json → Option α) (field : Option Json) : Option α :=
  field.bind value

def orElse? {α : Type} (default : α) (value : Json → Option α) : Option Json → Option α
  | none => some default
  | some json => value json

/-! ## Values kept for later -/

/-- Whether all strings and names are texts and all numbers are finite. -/
def isReadable : Json → Bool
  | .number literal => isFinite literal
  | .string text => text.isSome
  | .array items => itemsReadable items
  | .object fields => fieldsReadable fields
  | _ => true
where
  itemsReadable : List Json → Bool
  | [] => true
  | item :: items => isReadable item && itemsReadable items
  fieldsReadable : List (Option String × Json) → Bool
  | [] => true
  | (name, value) :: fields => name.isSome && isReadable value && fieldsReadable fields

end CertCatalog.Json
