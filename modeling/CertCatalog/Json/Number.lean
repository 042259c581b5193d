import CertCatalog.Json.Reader

/-!
# The size of numbers

Number literals of whole numbers in a range, and literals that a double can hold.
-/

namespace CertCatalog.Json

open CertCatalog.Text

def naturalBelow? (bound : Nat) (literal : String) : Option Nat :=
  match natural? literal.toList with
  | some n => if n < bound then some n else none
  | none => none

def exponentValue : List Char → Int
  | _ :: '-' :: digits => -(digitsValue digits : Int)
  | _ :: '+' :: digits => digitsValue digits
  | _ :: digits => digitsValue digits
  | [] => 0

/--
Whether the nearest double of a literal is finite, which holds below 2 to the 1024 less half a step.
The digit count settles all literals that are far from that bound.
-/
def isFinite (literal : String) : Bool :=
  let text := literal.toList.dropWhile (· == '-')
  let whole := text.takeWhile isDigit
  let afterWhole := text.drop whole.length
  let fraction :=
    match afterWhole with
    | '.' :: rest => rest.takeWhile isDigit
    | _ => []
  let exponent := exponentValue (afterWhole.dropWhile fun c => c == '.' || isDigit c)
  let digits := (whole ++ fraction).dropWhile (· == '0')
  let scale := exponent - fraction.length
  let bound := Nat.pow 2 1024 - Nat.pow 2 970
  let size := digits.length + scale
  if digits.isEmpty || size < 309 then true
  else if size > 309 then false
  else if 0 ≤ scale then digitsValue digits * Nat.pow 10 scale.toNat < bound
  else digitsValue digits < bound * Nat.pow 10 scale.natAbs

end CertCatalog.Json
