import CertCatalog.Bytes.Hex

/-!
# UTF-8

Writing text as UTF-8 and reading it back, strictly or with a replacement character for each
maximal run of bytes that starts no character.
-/

namespace CertCatalog.Bytes

def encodeUtf8 (text : List Char) : Bytes :=
  text.flatMap String.utf8EncodeChar

def utf8 (text : String) : Bytes :=
  encodeUtf8 text.toList

def isContinuation (byte : UInt8) : Bool :=
  0x80 ≤ byte && byte ≤ 0xBF

/--
The second bytes that may follow a lead byte of a three or four byte form.  The narrower ranges
keep out overlong forms, surrogates and values above the last code point.
-/
def isSecond (lead byte : UInt8) : Bool :=
  if lead == 0xE0 then 0xA0 ≤ byte && byte ≤ 0xBF
  else if lead == 0xED then 0x80 ≤ byte && byte ≤ 0x9F
  else if lead == 0xF0 then 0x90 ≤ byte && byte ≤ 0xBF
  else if lead == 0xF4 then 0x80 ≤ byte && byte ≤ 0x8F
  else isContinuation byte

private def low6 (byte : UInt8) : Nat :=
  byte.toNat % 64

/--
Reads one character from a lead byte and the bytes after it.  `none` stands for a run of bytes
that begins a character and does not complete it, or that begins none.
-/
def nextChar (lead : UInt8) (rest : Bytes) : Option Char × Bytes :=
  if lead < 0x80 then (some (Char.ofNat lead.toNat), rest)
  else if 0xC2 ≤ lead && lead ≤ 0xDF then
    match rest with
    | [] => (none, [])
    | b :: after =>
        if isContinuation b then
          (some (Char.ofNat (lead.toNat % 32 * 64 + low6 b)), after)
        else (none, b :: after)
  else if 0xE0 ≤ lead && lead ≤ 0xEF then
    match rest with
    | [] => (none, [])
    | b :: after =>
        if !isSecond lead b then (none, b :: after)
        else
          match after with
          | [] => (none, [])
          | c :: after =>
              if isContinuation c then
                (some (Char.ofNat (lead.toNat % 16 * 4096 + low6 b * 64 + low6 c)), after)
              else (none, c :: after)
  else if 0xF0 ≤ lead && lead ≤ 0xF4 then
    match rest with
    | [] => (none, [])
    | b :: after =>
        if !isSecond lead b then (none, b :: after)
        else
          match after with
          | [] => (none, [])
          | c :: after =>
              if !isContinuation c then (none, c :: after)
              else
                match after with
                | [] => (none, [])
                | d :: after =>
                    if isContinuation d then
                      (some (Char.ofNat
                        (lead.toNat % 8 * 262144 + low6 b * 4096 + low6 c * 64 + low6 d)), after)
                    else (none, d :: after)
  else (none, rest)

theorem length_nextChar_le (lead : UInt8) (rest : Bytes) :
    (nextChar lead rest).2.length ≤ rest.length := by
  unfold nextChar
  repeat' split
  all_goals simp_all <;> omega

def readUtf8 : Bytes → List (Option Char)
  | [] => []
  | lead :: rest =>
      let next := nextChar lead rest
      next.1 :: readUtf8 next.2
termination_by bytes => bytes.length
decreasing_by
  have := length_nextChar_le lead rest
  simp only [List.length_cons]
  omega

def decodeUtf8? (bytes : Bytes) : Option (List Char) :=
  (readUtf8 bytes).mapM id

def text? (bytes : Bytes) : Option String :=
  (decodeUtf8? bytes).map String.ofList

def lossyText (bytes : Bytes) : String :=
  String.ofList ((readUtf8 bytes).map fun c => c.getD '\uFFFD')

end CertCatalog.Bytes
