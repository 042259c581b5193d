import CertCatalog.Bytes.Hex

/-!
# Encoded elements

Tag, length and contents of the distinguished encoding, and the few places where the basic encoding
with its open lengths is read as well.  A reader takes bytes and yields a value with the bytes that
are left; what a container holds after the part that is read is passed over.
-/

namespace CertCatalog.Der

open CertCatalog.Bytes

abbrev Reader (α : Type) := StateT Bytes Option α

inductive TagClass where
  | universal
  | application
  | contextSpecific
  | priv
  deriving DecidableEq, Repr

structure Header where
  tagClass : TagClass
  constructed : Bool
  tag : Nat
  /-- `none` is the open length, which an end mark closes. -/
  length : Option Nat
  deriving DecidableEq, Repr

structure Element where
  header : Header
  contents : Bytes
  deriving DecidableEq, Repr

abbrev Element.tag (e : Element) : Nat := e.header.tag

abbrev Element.constructed (e : Element) : Bool := e.header.constructed

/-! ## Headers -/

def TagClass.ofByte (byte : UInt8) : TagClass :=
  match byte.toNat / 64 with
  | 0 => .universal
  | 1 => .application
  | 2 => .contextSpecific
  | _ => .priv

/-- A long tag: seven bits in each of at most `limit` bytes, kept modulo 2 to the 32. -/
def longTag : Nat → Nat → Bytes → Option (Nat × Bytes)
  | limit + 1, value, byte :: rest =>
      let value := (value * 128 + byte.toNat % 128) % 4294967296
      if byte < 0x80 then some (value, rest) else longTag limit value rest
  | _, _, _ => none

def byte : Reader UInt8
  | [] => none
  | b :: rest => some (b, rest)

def take (count : Nat) : Reader Bytes := fun bytes =>
  if count ≤ bytes.length then some (bytes.take count, bytes.drop count) else none

def number? (digits : Bytes) : Option Nat :=
  let value := digits.foldl (fun value b => value * 256 + b.toNat) 0
  if value < 18446744073709551616 then some value else none

def length : Reader (Option Nat) := do
  let first ← byte
  if first < 0x80 then pure (some first.toNat)
  else if first == 0x80 then pure none
  else if first == 0xFF then failure
  else
    let digits ← take (first.toNat % 128)
    let value ← number? digits
    pure (some value)

def header : Reader Header := do
  let first ← byte
  let short := first.toNat % 32
  let tag ← if short == 31 then longTag 5 0 else pure short
  let length ← length
  let constructed := first.toNat / 32 % 2 == 1
  if length.isNone && !constructed then failure
  else
    pure
      { tagClass := TagClass.ofByte first
        constructed := constructed
        tag := tag
        length := length }

/-! ## Elements -/

def element : Reader Element := do
  let header ← header
  match header.length with
  | none => failure
  | some length => pure { header := header, contents := ← take length }

def manyUpTo {α : Type} (item : Reader α) : Nat → Bytes → List α × Bytes
  | 0, bytes => ([], bytes)
  | count + 1, bytes =>
      match item bytes with
      | none => ([], bytes)
      | some (value, rest) =>
          let (values, rest) := manyUpTo item count rest
          (value :: values, rest)

def many {α : Type} (item : Reader α) : Reader (List α) := fun bytes =>
  some (manyUpTo item bytes.length bytes)

def all {α : Type} (item : Reader α) (bytes : Bytes) : Option (List α) :=
  match manyUpTo item bytes.length bytes with
  | (values, []) => some values
  | _ => none

def within {α : Type} (tag : Nat) (contents : Reader α) : Reader α := do
  let e ← element
  if e.tag == tag && e.constructed then
    let (value, _) ← contents.run e.contents
    pure value
  else failure

def sequenceTag : Nat := 16

def setTag : Nat := 17

def sequence {α : Type} (contents : Reader α) : Reader α :=
  within sequenceTag contents

def set {α : Type} (contents : Reader α) : Reader α :=
  within setTag contents

def atEnd : Reader Bool := fun bytes => some (bytes.isEmpty, bytes)

/-- The next element if its tag number is `tag`; all other input is left alone. -/
def optional (tag : Nat) : Reader (Option Element) := fun bytes =>
  if bytes.isEmpty then some (none, bytes)
  else
    match element bytes with
    | none => none
    | some (e, rest) => if e.tag == tag then some (some e, rest) else some (none, bytes)

/-! ## Open lengths -/

/--
Passes over an element of either length form.  The result tells whether it was an end mark; `depth`
bounds the nesting of open lengths.
-/
def skipContents : Nat → Nat → Header → Bytes → Option (Bool × Bytes)
  | 0, _, _, _ => none
  | _, 0, _, _ => none
  | fuel + 1, depth + 1, header, bytes =>
      match header.length with
      | some length =>
          if length == 0 && header.tag == 0 then some (true, bytes)
          else
            match take length bytes with
            | none => none
            | some (_, rest) => some (false, rest)
      | none => skipUntilEnd fuel depth bytes
where
  skipUntilEnd : Nat → Nat → Bytes → Option (Bool × Bytes)
  | 0, _, _ => none
  | fuel + 1, depth, bytes =>
      match header bytes with
      | none => none
      | some (inner, rest) =>
          match skipContents fuel depth inner rest with
          | none => none
          | some (true, rest) => some (false, rest)
          | some (false, rest) => skipUntilEnd fuel depth rest

def maxDepth : Nat := 50

/-- An element of either length form; the end mark is not part of the contents. -/
def openElement : Reader Element := do
  let header ← header
  let bytes ← get
  match skipContents (2 * bytes.length + 2) maxDepth header bytes with
  | none => failure
  | some (_, rest) =>
      StateT.set rest
      let contents := bytes.take (bytes.length - rest.length)
      match header.length with
      | some _ => pure { header := header, contents := contents }
      | none => pure { header := header, contents := contents.take (contents.length - 2) }

end CertCatalog.Der
