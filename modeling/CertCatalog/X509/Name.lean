import CertCatalog.Bytes.Utf8
import CertCatalog.Der.Primitive
import CertCatalog.X509.AttributeType

/-!
# Distinguished names

A name is a sequence of relative names, each a set of attributes.
-/

namespace CertCatalog.X509

open CertCatalog.Bytes CertCatalog.Der

structure Attribute where
  kind : ObjectId
  value : Element
  deriving DecidableEq, Repr

abbrev RelativeName := List Attribute

abbrev Name := List RelativeName

/-! ## Reading -/

def typedValue : Reader Attribute :=
  sequence do
    let kind ← objectId
    let value ← element
    pure { kind := kind, value := value }

/-- A set of at least one attribute; it ends before the first that cannot be read. -/
def relativeName : Reader RelativeName :=
  set do
    match ← many typedValue with
    | [] => failure
    | attributes => pure attributes

def name : Reader Name :=
  sequence (many relativeName)

/-! ## Attribute values -/

def plainStringTags : List Nat :=
  [7, 12, 18, 19, 20, 21, 22, 25, 26, 27]

/-- Sixteen-bit units, most significant byte first; a last byte on its own counts as one unit. -/
def units16 : Bytes → List Nat
  | [] => []
  | [a] => [a.toNat]
  | a :: b :: rest => (a.toNat * 256 + b.toNat) :: units16 rest

def ofUnits16? : List Nat → Option (List Char)
  | [] => some []
  | high :: low :: rest =>
      if 0xD800 ≤ high && high < 0xDC00 then
        if 0xDC00 ≤ low && low < 0xE000 then
          (ofUnits16? rest).map
            (Char.ofNat (0x10000 + (high - 0xD800) * 0x400 + (low - 0xDC00)) :: ·)
        else none
      else if 0xDC00 ≤ high && high < 0xE000 then none
      else (ofUnits16? (low :: rest)).map (Char.ofNat high :: ·)
  | [unit] => if 0xD800 ≤ unit && unit < 0xE000 then none else some [Char.ofNat unit]

def valueText? (value : Element) : Option String :=
  if plainStringTags.contains value.tag then text? value.contents
  else if value.tag == 30 then (ofUnits16? (units16 value.contents)).map String.ofList
  else some (upperHex value.contents)

/-! ## Text -/

def attributeText? (a : Attribute) : Option String :=
  (valueText? a.value).map fun value => typeLabel a.kind ++ "=" ++ value

def relativeNameText? (r : RelativeName) : Option String :=
  (r.mapM attributeText?).map (Text.joinWith " + ")

def invalidNameText : String := "<X509Error: Invalid X.509 name>"

def nameText (n : Name) : String :=
  match n.mapM relativeNameText? with
  | some parts => Text.joinWith ", " parts
  | none => invalidNameText

/-! ## Common name -/

def commonNameType : ObjectId := ObjectId.ofArcs [2, 5, 4, 3]

/-- The first common name, if it is a numeric, printable, UTF-8 or IA5 string. -/
def commonName (n : Name) : String :=
  match n.flatten.find? (·.kind == commonNameType) with
  | some a =>
      if [12, 18, 19, 22].contains a.value.tag then (text? a.value.contents).getD "" else ""
  | none => ""

end CertCatalog.X509
