import CertCatalog.Bytes.Utf8
import CertCatalog.Json.Value
import CertCatalog.Text.Decimal
import CertCatalog.Text.Split

/-!
# Reading JSON

One value with blanks around it.  Nesting has no limit here; where a reader of values sets one, it
is checked on the value.
-/

namespace CertCatalog.Json

open CertCatalog.Text CertCatalog.Bytes

def isJsonBlank (c : Char) : Bool :=
  c == ' ' || c == '\n' || c == '\r' || c == '\t'

def skipBlanks (text : List Char) : List Char :=
  text.dropWhile isJsonBlank

/-! ## Strings -/

def hex4? (a b c d : Char) : Option Nat := do
  pure (((← hexValue? a) * 16 + (← hexValue? b)) * 256 + (← hexValue? c) * 16 + (← hexValue? d))

def simpleEscape? : Char → Option Char
  | '"' => some '"'
  | '\\' => some '\\'
  | '/' => some '/'
  | 'b' => some '\x08'
  | 'f' => some '\x0c'
  | 'n' => some '\n'
  | 'r' => some '\r'
  | 't' => some '\t'
  | _ => none

def stringUnits : List Char → Option (List Nat × List Char)
  | [] => none
  | '"' :: rest => some ([], rest)
  | '\\' :: 'u' :: a :: b :: c :: d :: rest => do
      let unit ← hex4? a b c d
      let (units, rest) ← stringUnits rest
      pure (unit :: units, rest)
  | '\\' :: c :: rest => do
      let c ← simpleEscape? c
      let (units, rest) ← stringUnits rest
      pure (c.toNat :: units, rest)
  | c :: rest =>
      if c.toNat < 0x20 then none
      else do
        let (units, rest) ← stringUnits rest
        pure (c.toNat :: units, rest)

def isHighSurrogate (unit : Nat) : Bool := 0xD800 ≤ unit && unit < 0xDC00

def isLowSurrogate (unit : Nat) : Bool := 0xDC00 ≤ unit && unit < 0xE000

def joinUnits : List Nat → Option (List Char)
  | [] => some []
  | high :: low :: rest =>
      if isHighSurrogate high then
        if isLowSurrogate low then
          (joinUnits rest).map
            (Char.ofNat (0x10000 + (high - 0xD800) * 0x400 + (low - 0xDC00)) :: ·)
        else none
      else if isLowSurrogate high then none
      else (joinUnits (low :: rest)).map (Char.ofNat high :: ·)
  | [unit] =>
      if isHighSurrogate unit || isLowSurrogate unit then none else some [Char.ofNat unit]

def stringBody (text : List Char) : Option (Option String × List Char) := do
  let (units, rest) ← stringUnits text
  pure ((joinUnits units).map String.ofList, rest)

/-! ## Numbers -/

def digits1 (text : List Char) : Option (List Char × List Char) :=
  let digits := text.takeWhile isDigit
  if digits.isEmpty then none else some (digits, text.drop digits.length)

def wholePart : List Char → Option (List Char × List Char)
  | '0' :: rest => some (['0'], rest)
  | text => digits1 text

def fractionPart : List Char → Option (List Char × List Char)
  | '.' :: rest => (digits1 rest).map fun (digits, rest) => ('.' :: digits, rest)
  | text => some ([], text)

def exponentPart : List Char → Option (List Char × List Char)
  | c :: rest =>
      if c == 'e' || c == 'E' then
        match rest with
        | sign :: after =>
            if sign == '+' || sign == '-' then
              (digits1 after).map fun (digits, rest) => (c :: sign :: digits, rest)
            else (digits1 rest).map fun (digits, rest) => (c :: digits, rest)
        | [] => none
      else some ([], c :: rest)
  | [] => some ([], [])

def numberLiteral (text : List Char) : Option (String × List Char) := do
  let (sign, text) :=
    match text with
    | '-' :: rest => (['-'], rest)
    | text => ([], text)
  let (whole, text) ← wholePart text
  let (fraction, text) ← fractionPart text
  let (exponent, text) ← exponentPart text
  pure (String.ofList (sign ++ whole ++ fraction ++ exponent), text)

/-! ## Values -/

mutual

/-- One value, without blanks in front; `fuel` bounds the number of steps. -/
def readValue : Nat → List Char → Option (Json × List Char)
  | 0, _ => none
  | fuel + 1, text =>
      match text with
      | '"' :: rest => do
          let (body, rest) ← stringBody rest
          pure (.string body, rest)
      | '[' :: rest =>
          match skipBlanks rest with
          | ']' :: rest => some (.array [], rest)
          | rest => do
              let (items, rest) ← readItems fuel rest
              pure (.array items, rest)
      | '{' :: rest =>
          match skipBlanks rest with
          | '}' :: rest => some (.object [], rest)
          | rest => do
              let (fields, rest) ← readFields fuel rest
              pure (.object fields, rest)
      | 'n' :: rest => (dropStart? "ull".toList rest).map fun rest => (.null, rest)
      | 't' :: rest => (dropStart? "rue".toList rest).map fun rest => (.bool true, rest)
      | 'f' :: rest => (dropStart? "alse".toList rest).map fun rest => (.bool false, rest)
      | text => do
          let (literal, rest) ← numberLiteral text
          pure (.number literal, rest)

def readItems : Nat → List Char → Option (List Json × List Char)
  | 0, _ => none
  | fuel + 1, text => do
      let (item, rest) ← readValue fuel text
      match skipBlanks rest with
      | ',' :: rest =>
          let (items, rest) ← readItems fuel (skipBlanks rest)
          pure (item :: items, rest)
      | ']' :: rest => pure ([item], rest)
      | _ => none

def readFields : Nat → List Char → Option (List (Option String × Json) × List Char)
  | 0, _ => none
  | fuel + 1, text =>
      match text with
      | '"' :: rest => do
          let (name, rest) ← stringBody rest
          match skipBlanks rest with
          | ':' :: rest =>
              let (value, rest) ← readValue fuel (skipBlanks rest)
              match skipBlanks rest with
              | ',' :: rest =>
                  let (fields, rest) ← readFields fuel (skipBlanks rest)
                  pure ((name, value) :: fields, rest)
              | '}' :: rest => pure ([(name, value)], rest)
              | _ => none
          | _ => none
      | _ => none

end

def parse? (text : String) : Option Json :=
  let chars := text.toList
  match readValue (2 * chars.length + 2) (skipBlanks chars) with
  | some (value, rest) => if (skipBlanks rest).isEmpty then some value else none
  | none => none

/-! ## Bytes -/

/-- The escapes of two high halves of surrogate pairs, which no text holds. -/
def loneHalves : List Char :=
  "\\ud800\\ud800".toList

/--
The characters of a byte string, with lone halves in the place of bytes that are no character.  A
string that holds them names no text but may be skipped over; anywhere else, behind a backslash too,
they are a fault.
-/
def spelled : List (Option Char) → List Char
  | [] => []
  | none :: rest => loneHalves ++ spelled rest
  | [some c] => [c]
  | some c :: d :: rest =>
      if c == '\\' then c :: d.getD '\uFFFD' :: spelled rest else c :: spelled (d :: rest)

def ofBytes? (bytes : Bytes) : Option Json :=
  parse? (String.ofList (spelled (readUtf8 bytes)))

end CertCatalog.Json
