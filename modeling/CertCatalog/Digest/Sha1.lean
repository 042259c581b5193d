import CertCatalog.Digest.Words

/-!
# SHA-1
-/

namespace CertCatalog.Digest.Sha1

open CertCatalog.Bytes

structure State where
  a : UInt32
  b : UInt32
  c : UInt32
  d : UInt32
  e : UInt32
  deriving DecidableEq, Repr

def initial : State :=
  ⟨0x67452301, 0xEFCDAB89, 0x98BADCFE, 0x10325476, 0xC3D2E1F0⟩

def extend : Nat → List UInt32 → List UInt32
  | 0, window => window
  | count + 1, window =>
      match window with
      | w0 :: w1 :: w2 :: w3 :: w4 :: w5 :: w6 :: w7 :: w8 :: w9 :: w10 :: w11 :: w12 :: w13 ::
          w14 :: w15 :: [] =>
          let next := rotateLeft (w13 ^^^ w8 ^^^ w2 ^^^ w0) 1
          w0 :: extend count [w1, w2, w3, w4, w5, w6, w7, w8, w9, w10, w11, w12, w13, w14, w15, next]
      | other => other

def schedule (block : List UInt32) : List UInt32 :=
  extend 64 block

def mix (t : Nat) (s : State) : UInt32 :=
  if t < 20 then ((s.b &&& s.c) ||| (~~~s.b &&& s.d)) + 0x5A827999
  else if t < 40 then (s.b ^^^ s.c ^^^ s.d) + 0x6ED9EBA1
  else if t < 60 then ((s.b &&& s.c) ||| (s.b &&& s.d) ||| (s.c &&& s.d)) + 0x8F1BBCDC
  else (s.b ^^^ s.c ^^^ s.d) + 0xCA62C1D6

def round (s : State) (word : Nat × UInt32) : State :=
  ⟨rotateLeft s.a 5 + mix word.1 s + s.e + word.2, s.a, rotateLeft s.b 30, s.c, s.d⟩

def compress (s : State) (block : List UInt32) : State :=
  let r := ((List.range 80).zip (schedule block)).foldl round s
  ⟨s.a + r.a, s.b + r.b, s.c + r.c, s.d + r.d, s.e + r.e⟩

def digest (message : Bytes) : Bytes :=
  let s := (blocks (words (padded message))).foldl compress initial
  [s.a, s.b, s.c, s.d, s.e].flatMap wordBytes

end CertCatalog.Digest.Sha1
