import CertCatalog.Bytes.Utf8

/-!
# Percent encoding

Each part of a URL has its own set of bytes that are written as a percent sign and two digits.  All
bytes outside ASCII belong to every set.
-/

namespace CertCatalog.Url

open CertCatalog.Bytes

def controlSet (b : UInt8) : Bool :=
  b < 0x20 || 0x7F ≤ b

private def isOneOf (characters : String) (b : UInt8) : Bool :=
  characters.toList.any fun c => c.toNat == b.toNat

def fragmentSet (b : UInt8) : Bool :=
  controlSet b || isOneOf " \"<>\x60" b

def querySet (b : UInt8) : Bool :=
  controlSet b || isOneOf " \"#<>" b

def specialQuerySet (b : UInt8) : Bool :=
  querySet b || isOneOf "'" b

def pathSet (b : UInt8) : Bool :=
  fragmentSet b || isOneOf "#?\x7b\x7d" b

def segmentSet (b : UInt8) : Bool :=
  pathSet b || isOneOf "/%" b

def specialSegmentSet (b : UInt8) : Bool :=
  segmentSet b || isOneOf "\\" b

def userinfoSet (b : UInt8) : Bool :=
  pathSet b || isOneOf "/:;=@[\\]^|" b

def encodeByte (b : UInt8) : List Char :=
  '%' :: upperHexPair b

def percentEncode (inSet : UInt8 → Bool) (text : List Char) : List Char :=
  text.flatMap fun c =>
    (String.utf8EncodeChar c).flatMap fun b =>
      if inSet b then encodeByte b else [Char.ofNat b.toNat]

def percentDecode : List Char → Bytes
  | [] => []
  | '%' :: a :: b :: rest =>
      match hexValue? a, hexValue? b with
      | some high, some low => UInt8.ofNat (high * 16 + low) :: percentDecode rest
      | _, _ => 0x25 :: percentDecode (a :: b :: rest)
  | c :: rest => String.utf8EncodeChar c ++ percentDecode rest

end CertCatalog.Url
