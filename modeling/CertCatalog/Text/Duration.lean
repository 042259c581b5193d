import CertCatalog.Text.Decimal

/-!
# Written durations

A duration of milliseconds in the largest of seconds and milliseconds that it reaches, with as many
decimal places as it needs.
-/

namespace CertCatalog.Text

def thousandths (n : Nat) : List Char :=
  ((showPadded 3 n).reverse.dropWhile (· == '0')).reverse

/-- Seconds, or milliseconds below one second, or nothing at all in nanoseconds. -/
def durationText (millis : Nat) : String :=
  if millis == 0 then "0ns"
  else if millis < 1000 then String.ofList (showNat millis) ++ "ms"
  else
    let fraction := thousandths (millis % 1000)
    let point := if fraction.isEmpty then [] else ['.']
    String.ofList (showNat (millis / 1000) ++ point ++ fraction) ++ "s"

end CertCatalog.Text
