import CertCatalog.Bytes.Hex

/-!
# Blocks of a message

The padding of a message to whole blocks of sixteen big-endian words, which the two digests share.
-/

namespace CertCatalog.Digest

open CertCatalog.Bytes

def lengthBytes (n : Nat) : Bytes :=
  (List.range 8).map fun i => UInt8.ofNat (n / Nat.pow 256 (7 - i))

def paddingZeros (size : Nat) : Nat :=
  (119 - size % 64) % 64

/-- The message, an end mark, zeros and the length in bits. -/
def padded (message : Bytes) : Bytes :=
  message ++ 0x80 :: (List.replicate (paddingZeros message.length) 0 ++
    lengthBytes (8 * message.length))

def words : Bytes → List UInt32
  | a :: b :: c :: d :: rest =>
      UInt32.ofNat (((a.toNat * 256 + b.toNat) * 256 + c.toNat) * 256 + d.toNat) :: words rest
  | _ => []

def wordBytes (w : UInt32) : Bytes :=
  [(w >>> 24).toUInt8, (w >>> 16).toUInt8, (w >>> 8).toUInt8, w.toUInt8]

def blocks (ws : List UInt32) : List (List UInt32) :=
  if ws.length < 16 then []
  else ws.take 16 :: blocks (ws.drop 16)
termination_by ws.length
decreasing_by
  simp only [List.length_drop]
  omega

def rotateLeft (w : UInt32) (n : UInt32) : UInt32 :=
  (w <<< n) ||| (w >>> (32 - n))

def rotateRight (w : UInt32) (n : UInt32) : UInt32 :=
  (w >>> n) ||| (w <<< (32 - n))

end CertCatalog.Digest
