/-!
# JSON values

Values as they stand in a text: numbers keep their spelling and objects keep the order and the
repetition of their fields.
-/

namespace CertCatalog

/-- `none` is a string literal whose escapes leave half of a surrogate pair, so it names no text. -/
inductive Json where
  | null
  | bool (value : Bool)
  | number (literal : String)
  | string (text : Option String)
  | array (items : List Json)
  | object (fields : List (Option String × Json))
  deriving Repr, Inhabited

namespace Json

def str (text : String) : Json :=
  .string (some text)

def strings (texts : List String) : Json :=
  .array (texts.map str)

def nat (n : Nat) : Json :=
  .number (toString n)

def ofFields (fields : List (String × Json)) : Json :=
  .object (fields.map fun (name, value) => (some name, value))

def depth : Json → Nat
  | .array items => depthItems items + 1
  | .object fields => depthFields fields + 1
  | _ => 0
where
  depthItems : List Json → Nat
  | [] => 0
  | item :: items => max (depth item) (depthItems items)
  depthFields : List (Option String × Json) → Nat
  | [] => 0
  | (_, value) :: fields => max (depth value) (depthFields fields)

end Json
end CertCatalog
