/-!
# Decimal numbers

Reading and writing whole numbers in decimal digits.
-/

namespace CertCatalog.Text

def digit? (c : Char) : Option Nat :=
  if '0' ≤ c && c ≤ '9' then some (c.toNat - '0'.toNat) else none

def isDigit (c : Char) : Bool :=
  '0' ≤ c && c ≤ '9'

def digitsValue (digits : List Char) : Nat :=
  digits.foldl (fun value c => value * 10 + (c.toNat - '0'.toNat)) 0

def natural? (text : List Char) : Option Nat :=
  if text.isEmpty || !text.all isDigit then none else some (digitsValue text)

inductive NumberError where
  | empty
  | invalidDigit
  | tooLarge
  deriving DecidableEq, Repr

def NumberError.message : NumberError → String
  | .empty => "cannot parse integer from empty string"
  | .invalidDigit => "invalid digit found in string"
  | .tooLarge => "number too large to fit in target type"

/--
The digits from left to right with a bound on every partial value.  The first digit that leaves
the range decides, unless a character before it is no digit.
-/
def boundedDigits (bound : Nat) : Nat → List Char → Except NumberError Nat
  | value, [] => .ok value
  | value, c :: rest =>
      match digit? c with
      | none => .error .invalidDigit
      | some d =>
          if value * 10 + d < bound then boundedDigits bound (value * 10 + d) rest
          else .error .tooLarge

def readBounded (bound : Nat) (text : List Char) : Except NumberError Nat :=
  match text with
  | [] => .error .empty
  | ['+'] => .error .invalidDigit
  | '+' :: digits => boundedDigits bound 0 digits
  | digits => boundedDigits bound 0 digits

def bound64 : Nat := 18446744073709551616

def showNat (n : Nat) : List Char :=
  Nat.toDigits 10 n

def showPadded (width n : Nat) : List Char :=
  let digits := showNat n
  List.replicate (width - digits.length) '0' ++ digits

end CertCatalog.Text
