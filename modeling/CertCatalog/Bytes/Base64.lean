import CertCatalog.Bytes.Hex

/-!
# Base64

Reading the standard alphabet with padding.  `Base64.decode` reads one padded text and says what
is wrong with any other; `Base64.decodeGroups?` also reads padded texts set one after another.
-/

namespace CertCatalog.Bytes.Base64

def sextet? (symbol : UInt8) : Option Nat :=
  let code := symbol.toNat
  if 0x41 ≤ code && code ≤ 0x5A then some (code - 0x41)
  else if 0x61 ≤ code && code ≤ 0x7A then some (code - 0x61 + 26)
  else if 0x30 ≤ code && code ≤ 0x39 then some (code - 0x30 + 52)
  else if code == 0x2B then some 62
  else if code == 0x2F then some 63
  else none

def pad : UInt8 := 0x3D

inductive Error where
  | symbol (value : UInt8) (offset : Nat)
  | lastSymbol (value : UInt8) (offset : Nat)
  | length (count : Nat)
  | padding
  deriving DecidableEq, Repr

def Error.message : Error → String
  | .symbol value offset => s!"Invalid symbol {value.toNat}, offset {offset}."
  | .lastSymbol value offset => s!"Invalid last symbol {value.toNat}, offset {offset}."
  | .length count => s!"Invalid input length: {count}"
  | .padding => "Invalid padding"

def joinSextets : List Nat → Bytes × Bool
  | [a, b] => ([UInt8.ofNat (a * 4 + b / 16)], b % 16 == 0)
  | [a, b, c] =>
      ([UInt8.ofNat (a * 4 + b / 16), UInt8.ofNat (b % 16 * 16 + c / 4)], c % 4 == 0)
  | [a, b, c, d] =>
      ([UInt8.ofNat (a * 4 + b / 16), UInt8.ofNat (b % 16 * 16 + c / 4),
        UInt8.ofNat (c % 4 * 64 + d)], true)
  | _ => ([], true)

def sextets (offset : Nat) : Bytes → Except Error (List Nat)
  | [] => .ok []
  | symbol :: rest =>
      match sextet? symbol with
      | none => .error (.symbol symbol offset)
      | some value => (sextets (offset + 1) rest).map (value :: ·)

/--
Checks the padding of the final symbols: it may start after two symbols at the earliest and only
padding may follow it.  The result is the symbols before it and the length of the padding.
-/
def splitPadding (offset : Nat) (symbols : Bytes) : Except Error (Bytes × Nat) :=
  let body := symbols.takeWhile (· != pad)
  let tail := symbols.dropWhile (· != pad)
  match sextets offset body with
  | .error e => .error e
  | .ok _ =>
      if tail.isEmpty then .ok (body, 0)
      else if body.length < 2 || tail.any (· != pad) then
        .error (.symbol pad (offset + body.length))
      else .ok (body, tail.length)

def decodeLast (offset : Nat) (symbols : Bytes) : Except Error Bytes :=
  if symbols.isEmpty then .ok []
  else do
    let (body, padding) ← splitPadding offset symbols
    if body.length < 2 then throw (.length (offset + body.length))
    if (body.length + padding) % 4 != 0 then throw .padding
    let (bytes, exact) := joinSextets (← sextets offset body)
    if exact then pure bytes
    else throw (.lastSymbol (body.getLast?.getD 0) (offset + body.length - 1))

def decodeFrom (offset : Nat) : Bytes → Except Error Bytes
  | a :: b :: c :: d :: e :: rest => do
      let (bytes, _) := joinSextets (← sextets offset [a, b, c, d])
      pure (bytes ++ (← decodeFrom (offset + 4) (e :: rest)))
  | symbols => decodeLast offset symbols

/--
Reads one padded text.  A stray last symbol beyond whole groups, such as a line break, is reported
before all other faults.
-/
def decode (symbols : Bytes) : Except Error Bytes :=
  match symbols.getLast? with
  | none => .ok []
  | some last =>
      if symbols.length % 4 == 1 && last != pad && (sextet? last).isNone then
        .error (.symbol last (symbols.length - 1))
      else decodeFrom 0 symbols

def group? (a b c d : UInt8) : Option Bytes :=
  match decodeLast 0 [a, b, c, d] with
  | .ok bytes => some bytes
  | .error _ => none

def decodeGroups? : Bytes → Option Bytes
  | [] => some []
  | a :: b :: c :: d :: rest => do
      let bytes ← group? a b c d
      pure (bytes ++ (← decodeGroups? rest))
  | _ => none

end CertCatalog.Bytes.Base64
