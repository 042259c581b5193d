import CertCatalog.Unicode.CombiningClass
import CertCatalog.Unicode.Composition.Pairs

/-!
# Composed texts

Texts that look the same can be spelled with composed characters or with a base and its marks.
The composed form is unique: characters are taken apart, marks are put in the order of their
classes, and every pair that composes is composed.
-/

namespace CertCatalog.Unicode

/-! ## Syllables of Hangul -/

def hangulLead : Nat := 0x1100

def hangulVowel : Nat := 0x1161

def hangulFinal : Nat := 0x11A7

def hangulSyllable : Nat := 0xAC00

def hangulLeads : Nat := 19

def hangulVowels : Nat := 21

def hangulFinals : Nat := 28

def isHangulSyllable (code : Nat) : Bool :=
  hangulSyllable ≤ code && code < hangulSyllable + hangulLeads * hangulVowels * hangulFinals

def hangulLetters (code : Nat) : List Nat :=
  let place := code - hangulSyllable
  let final := place % hangulFinals
  let lead := hangulLead + place / (hangulVowels * hangulFinals)
  let vowel := hangulVowel + place / hangulFinals % hangulVowels
  if final == 0 then [lead, vowel] else [lead, vowel, hangulFinal + final]

def hangulComposite? (first second : Nat) : Option Nat :=
  if hangulLead ≤ first && first < hangulLead + hangulLeads &&
      hangulVowel ≤ second && second < hangulVowel + hangulVowels then
    some (hangulSyllable +
      ((first - hangulLead) * hangulVowels + (second - hangulVowel)) * hangulFinals)
  else if isHangulSyllable first && (first - hangulSyllable) % hangulFinals == 0 &&
      hangulFinal < second && second < hangulFinal + hangulFinals then
    some (first + (second - hangulFinal))
  else none

/-! ## Taking apart -/

/-- Replaces a character by its pair, and the first of the pair again further down the table. -/
def decomposeWith : List Composite → Nat → List Nat
  | [], code => [code]
  | composite :: rest, code =>
      if composite.whole == code then decomposeWith rest composite.first ++ [composite.second]
      else decomposeWith rest code

def decompose (c : Char) : List Char :=
  if isHangulSyllable c.toNat then (hangulLetters c.toNat).map Char.ofNat
  else (decomposeWith composites c.toNat).map Char.ofNat

/-! ## The order of marks -/

def insertMark (c : Char) : List Char → List Char
  | [] => [c]
  | d :: rest =>
      if 0 < combiningClass d && combiningClass d < combiningClass c then d :: insertMark c rest
      else c :: d :: rest

def orderMarks (text : List Char) : List Char :=
  text.foldr insertMark []

/-! ## Putting together -/

def composite? (first second : Char) : Option Char :=
  match hangulComposite? first.toNat second.toNat with
  | some code => some (Char.ofNat code)
  | none =>
      (composites.find? fun composite =>
        composite.first == first.toNat && composite.second == second.toNat).map
          fun composite => Char.ofNat composite.whole

/-- Whether the marks after the base keep `c` from composing with it. -/
def isBlocked (marks : List Char) (c : Char) : Bool :=
  marks.any fun mark => combiningClass c ≤ combiningClass mark

def composeAfter (base : Char) (marks : List Char) : List Char → List Char
  | [] => base :: marks
  | c :: rest =>
      match if isBlocked marks c then none else composite? base c with
      | some whole => composeAfter whole marks rest
      | none =>
          if combiningClass c == 0 then base :: marks ++ composeAfter c [] rest
          else composeAfter base (marks ++ [c]) rest

def composeText : List Char → List Char
  | [] => []
  | c :: rest =>
      if combiningClass c == 0 then composeAfter c [] rest else c :: composeText rest

def composed (text : List Char) : List Char :=
  composeText (orderMarks (text.flatMap decompose))

end CertCatalog.Unicode
