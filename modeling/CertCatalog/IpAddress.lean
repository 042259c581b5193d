import CertCatalog.Bytes.Hex

/-!
# Texts of IP addresses
-/

namespace CertCatalog.IpAddress

open CertCatalog.Bytes

def dotted (bytes : Bytes) : String :=
  String.intercalate "." (bytes.map fun b => toString b.toNat)

def groups : Bytes → List Nat
  | a :: b :: rest => (a.toNat * 256 + b.toNat) :: groups rest
  | _ => []

def groupText (group : Nat) : String :=
  String.ofList (Nat.toDigits 16 group)

def leadingZeros (groups : List Nat) : Nat :=
  (groups.takeWhile (· == 0)).length

def longestZeros (start : Nat) : List Nat → Nat × Nat
  | [] => (start, 0)
  | g :: rest =>
      let here := leadingZeros (g :: rest)
      let later := longestZeros (start + 1) rest
      if later.2 > here then later else (start, here)

/-- The longest run of two or more zero groups becomes a double colon. -/
def compressed (groups : List Nat) : String :=
  let (start, count) := longestZeros 0 groups
  let join (part : List Nat) := String.intercalate ":" (part.map groupText)
  if count < 2 then join groups
  else join (groups.take start) ++ "::" ++ join (groups.drop (start + count))

/-- The text of sixteen bytes; a mapped IPv4 address keeps its dotted form. -/
def text6 (bytes : Bytes) : String :=
  match groups bytes with
  | [0, 0, 0, 0, 0, 0xFFFF, _, _] => "::ffff:" ++ dotted (bytes.drop 12)
  | groups => compressed groups

def text? (bytes : Bytes) : Option String :=
  match bytes.length with
  | 4 => some (dotted bytes)
  | 16 => some (text6 bytes)
  | _ => none

end CertCatalog.IpAddress
