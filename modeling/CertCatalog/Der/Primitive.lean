import CertCatalog.Der.Element
import CertCatalog.Text.Split

/-!
# Primitive values

Object identifiers, bit strings, octet strings and whole numbers.
-/

namespace CertCatalog.Der

open CertCatalog.Bytes

def primitive (tag : Nat) : Reader Bytes := do
  let e ← element
  if e.tag == tag && !e.constructed then pure e.contents else failure

/-! ## Object identifiers -/

structure ObjectId where
  contents : Bytes
  deriving DecidableEq, Repr

namespace ObjectId

def arcBytes (arc : Nat) : Bytes :=
  go arc 10 [UInt8.ofNat (arc % 128)]
where
  go (arc : Nat) : Nat → Bytes → Bytes
  | 0, done => done
  | fuel + 1, done =>
      if arc / 128 == 0 then done
      else go (arc / 128) fuel (UInt8.ofNat (arc / 128 % 128 + 128) :: done)

def ofArcs : List Nat → ObjectId
  | first :: second :: rest => ⟨UInt8.ofNat (first * 40 + second) :: rest.flatMap arcBytes⟩
  | _ => ⟨[]⟩

/-- Whether every arc that is complete has at most 64 bits, counted seven to the byte. -/
def arcsFit (bits : Nat) : Bytes → Bool
  | [] => true
  | b :: rest =>
      if b < 0x80 then bits + 7 ≤ 64 && arcsFit 0 rest else arcsFit (bits + 7) rest

/-- The arcs of base 128 digits; an arc that breaks off counts, modulo 2 to the 64. -/
def arcs (value : Nat) : Bytes → List Nat
  | [] => []
  | [b] => [(value * 128 + b.toNat % 128) % 18446744073709551616]
  | b :: rest =>
      let value := (value * 128 + b.toNat % 128) % 18446744073709551616
      if b < 0x80 then value :: arcs 0 rest else arcs value rest

def text (oid : ObjectId) : String :=
  match oid.contents with
  | [] => ""
  | first :: rest =>
      if arcsFit 0 rest then
        let start := if first == 0 && rest.isEmpty then [0] else [first.toNat / 40, first.toNat % 40]
        Text.joinWith "." ((start ++ arcs 0 rest).map toString)
      else Text.joinWith " " ((first :: rest).map fun b => String.ofList (hexPair b))

end ObjectId

def objectIdTag : Nat := 6

def objectId : Reader ObjectId := do
  pure ⟨← primitive objectIdTag⟩

/-! ## Bit strings -/

def trailingZeros (b : UInt8) : Nat :=
  match (List.range 8).find? fun i => b.toNat / Nat.pow 2 i % 2 == 1 with
  | some i => i
  | none => 8

def bitStringBytes? : Bytes → Option Bytes
  | [] => none
  | [unused] => if unused == 0 then some [] else none
  | unused :: rest =>
      if trailingZeros (rest.getLast?.getD 0) < unused.toNat then none else some rest

def bitStringTag : Nat := 3

def bitString : Reader Bytes := do
  match bitStringBytes? (← primitive bitStringTag) with
  | some bytes => pure bytes
  | none => failure

/-! ## Octet strings and numbers -/

def octetString : Reader Bytes :=
  primitive 4

def integerTag : Nat := 2

def hasNoExtraZero : Bytes → Bool
  | [] => false
  | [_] => true
  | a :: b :: _ => !(a == 0 && b < 0x80)

def integerBytes : Reader Bytes := do
  let bytes ← primitive integerTag
  if hasNoExtraZero bytes then pure bytes else failure

def word : Reader Nat := do
  let bytes ← integerBytes
  if 0x80 ≤ bytes.headD 0 then failure
  else
    let value := bytes.foldl (fun value b => value * 256 + b.toNat) 0
    if value < 4294967296 then pure value else failure

end CertCatalog.Der
