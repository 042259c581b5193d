import CertCatalog.X509.Algorithm

/-!
# Public keys

What kind of key a certificate carries and how large it is.
-/

namespace CertCatalog.X509

open CertCatalog.Bytes CertCatalog.Der

structure PublicKeyInfo where
  algorithm : Algorithm
  key : Bytes
  deriving DecidableEq, Repr

def publicKeyInfo : Reader PublicKeyInfo :=
  sequence do
    let algorithm ← algorithm
    let key ← bitString
    pure { algorithm := algorithm, key := key }

structure KeyDescription where
  algorithm : String
  size : Nat
  deriving DecidableEq, Repr

def rsaKeys : ObjectId := ObjectId.ofArcs [1, 2, 840, 113549, 1, 1, 1]

def ellipticCurveKeys : ObjectId := ObjectId.ofArcs [1, 2, 840, 10045, 2, 1]

def dsaKeys : ObjectId := ObjectId.ofArcs [1, 2, 840, 10040, 4, 1]

def rsaModulus : Reader Bytes :=
  sequence do
    let modulus ← integerBytes
    let _ ← integerBytes
    pure modulus

/-- Eight bits for each byte after the first, or 0 when the first byte has its top bit set. -/
def rsaSize : Bytes → Nat
  | [] => 0
  | first :: rest => if first < 0x80 then 8 * rest.length else 0

/-- The size of a point on a curve by the mark of its form: 4 is two coordinates, 2 and 3 are one. -/
def pointSize : Bytes → Nat
  | [] => 0
  | form :: rest =>
      if form == 4 then rest.length * 8 / 2
      else if form == 2 || form == 3 then rest.length * 8
      else 0

def otherKeyName (id : ObjectId) : String :=
  match id.text with
  | "1.3.101.112" => "Ed25519"
  | "1.3.101.113" => "Ed448"
  | dotted => dotted

/-- An RSA or DSA key that cannot be read is described by its identifier. -/
def PublicKeyInfo.describe (info : PublicKeyInfo) : KeyDescription :=
  let id := info.algorithm.id
  let unknown : KeyDescription := { algorithm := otherKeyName id, size := 0 }
  if id == rsaKeys then
    match rsaModulus info.key with
    | some (modulus, _) => { algorithm := "RSA", size := rsaSize modulus }
    | none => unknown
  else if id == ellipticCurveKeys then { algorithm := "ECDSA", size := pointSize info.key }
  else if id == dsaKeys then
    match integerBytes info.key with
    | some _ => { algorithm := "DSA", size := 0 }
    | none => unknown
  else unknown

end CertCatalog.X509
