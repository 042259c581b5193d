import CertCatalog.Bytes.Hex
import CertCatalog.Json.Value

/-!
# Written JSON

The compact form without blanks, and the indented form with one field or item to a line.
-/

namespace CertCatalog.Json

open CertCatalog.Bytes

/-! ## Strings -/

def escapeChar (c : Char) : List Char :=
  match c with
  | '"' => ['\\', '"']
  | '\\' => ['\\', '\\']
  | '\x08' => ['\\', 'b']
  | '\x0c' => ['\\', 'f']
  | '\n' => ['\\', 'n']
  | '\r' => ['\\', 'r']
  | '\t' => ['\\', 't']
  | c =>
      if c.toNat < 0x20 then
        ['\\', 'u', '0', '0', hexDigit (c.toNat / 16), hexDigit (c.toNat % 16)]
      else [c]

def quotedChars (text : List Char) : List Char :=
  '"' :: text.flatMap escapeChar ++ ['"']

/-- A string that names no text is written as an empty one. -/
def quoted (text : Option String) : List Char :=
  quotedChars (text.getD "").toList

/-! ## Compact form -/

def compactChars : Json → List Char
  | .null => "null".toList
  | .bool true => "true".toList
  | .bool false => "false".toList
  | .number literal => literal.toList
  | .string text => quoted text
  | .array [] => "[]".toList
  | .array (item :: items) => '[' :: compactChars item ++ compactItems items
  | .object [] => "{}".toList
  | .object ((name, value) :: fields) =>
      '{' :: quoted name ++ ':' :: compactChars value ++ compactFields fields
where
  compactItems : List Json → List Char
  | [] => [']']
  | item :: items => ',' :: compactChars item ++ compactItems items
  compactFields : List (Option String × Json) → List Char
  | [] => ['}']
  | (name, value) :: fields =>
      ',' :: quoted name ++ ':' :: compactChars value ++ compactFields fields

def compact (value : Json) : String :=
  String.ofList (compactChars value)

/-! ## Indented form -/

def newLine (level : Nat) : List Char :=
  '\n' :: List.replicate (2 * level) ' '

def indentedChars (level : Nat) : Json → List Char
  | .array (item :: items) =>
      '[' :: newLine (level + 1) ++ indentedChars (level + 1) item ++ indentedItems level items
  | .object ((name, value) :: fields) =>
      '{' :: newLine (level + 1) ++ quoted name ++ ':' :: ' ' ::
        indentedChars (level + 1) value ++ indentedFields level fields
  | value => compactChars value
where
  indentedItems (level : Nat) : List Json → List Char
  | [] => newLine level ++ [']']
  | item :: items =>
      ',' :: newLine (level + 1) ++ indentedChars (level + 1) item ++ indentedItems level items
  indentedFields (level : Nat) : List (Option String × Json) → List Char
  | [] => newLine level ++ ['}']
  | (name, value) :: fields =>
      ',' :: newLine (level + 1) ++ quoted name ++ ':' :: ' ' ::
        indentedChars (level + 1) value ++ indentedFields level fields

def indented (value : Json) : String :=
  String.ofList (indentedChars 0 value)

end CertCatalog.Json
