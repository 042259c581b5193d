import CertCatalog.Bytes.Hex
import CertCatalog.Text.Split

/-!
# Ranges of code points

Properties of characters are tables of ranges.  A table is written as lines of items with single
spaces between them; an item is one hexadecimal number, or the first and the last number of a
range with a hyphen between them.
-/

namespace CertCatalog.Unicode

open CertCatalog.Text CertCatalog.Bytes

structure CodeRange where
  first : Nat
  last : Nat
  deriving DecidableEq, Repr

def CodeRange.contains (range : CodeRange) (c : Char) : Bool :=
  range.first ≤ c.toNat && c.toNat ≤ range.last

def hexNumber (digits : List Char) : Nat :=
  digits.foldl (fun value c => value * 16 + (hexValue? c).getD 0) 0

def CodeRange.ofText (text : List Char) : CodeRange :=
  match splitFirst? (· == '-') text with
  | some (first, last) => ⟨hexNumber first, hexNumber last⟩
  | none => ⟨hexNumber text, hexNumber text⟩

def items (lines : List String) : List (List Char) :=
  lines.flatMap fun line => splitBy (· == ' ') line.toList

abbrev Ranges := List CodeRange

def Ranges.ofLines (lines : List String) : Ranges :=
  (items lines).map CodeRange.ofText

def Ranges.contains (ranges : Ranges) (c : Char) : Bool :=
  ranges.any (·.contains c)

abbrev Classes (α : Type) := List (α × Ranges)

def Classes.ofLines {α : Type} (classes : List (α × List String)) : Classes α :=
  classes.map fun (value, lines) => (value, Ranges.ofLines lines)

def Classes.value? {α : Type} (classes : Classes α) (c : Char) : Option α :=
  (classes.find? fun (_, ranges) => ranges.contains c).map Prod.fst

end CertCatalog.Unicode
