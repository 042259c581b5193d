import CertCatalog.Bytes.Utf8
import CertCatalog.Unicode.Bidi
import CertCatalog.Unicode.Composition
import CertCatalog.Unicode.DomainMapping
import CertCatalog.Unicode.Joining
import CertCatalog.Unicode.Mark
import CertCatalog.Url.Punycode

/-!
# Domain names

The ASCII form of a domain name.  A name of ASCII characters is only set in small letters; any
other name is mapped and composed, its labels are checked, and each label with a character
outside ASCII is written in punycode after `xn--`.
-/

namespace CertCatalog.Url

open CertCatalog.Text CertCatalog.Bytes CertCatalog.Unicode

def isForbiddenInDomain (c : Char) : Bool :=
  c.toNat ≤ 0x20 || c.toNat == 0x7F || "#/:<>?@[\\]^|%".toList.contains c

def isAscii (c : Char) : Bool :=
  c.toNat < 0x80

def encodedStart : List Char := "xn--".toList

/-- The lengths up to which labels are encoded and decoded. -/
def longestLabel : Nat := 1000

def longestEncoded : Nat := 2000

def isMapped (label : List Char) : Bool :=
  mapTextForDomain? label == some label && composed label == label

/-- The label that an encoded one stands for.  It has to need its encoding. -/
def decodeLabel? (label : List Char) : Option (List Char) :=
  match dropStart? encodedStart label with
  | none => some label
  | some text => do
      let decoded ← if text.length ≤ longestEncoded then Punycode.decode? text else none
      if decoded.all isAscii || !isMapped decoded then none else some decoded

def isLabel (label : List Char) : Bool :=
  !label.head?.any isMark && joinersFit [] label

/-- Names with a letter that is read from right to left keep the rule for writing directions. -/
def keepDirections (labels : List (List Char)) : Bool :=
  !(labels.any (·.any (bidiClass · |>.isRightToLeft))) || labels.all keepsBidiRule

def encodeLabel? (label : List Char) : Option (List Char) :=
  if label.all isAscii then some label
  else if label.length ≤ longestLabel then some (encodedStart ++ Punycode.encode label)
  else none

def internationalToAscii? (text : List Char) : Option (List Char) := do
  let mapped ← mapTextForDomain? text
  let labels ← (splitBy (· == '.') (composed mapped)).mapM decodeLabel?
  if labels.all isLabel && keepDirections labels then
    let encoded ← labels.mapM encodeLabel?
    some (List.intercalate ['.'] encoded)
  else none

def isPlainAscii (text : List Char) : Bool :=
  text.all isAscii &&
    (splitBy (· == '.') text).all fun label => !encodedStart.isPrefixOf label

def domainToAscii? (bytes : Bytes) : Option (List Char) := do
  let text := (← decodeUtf8? bytes).map Char.toLower
  let ascii ← if isPlainAscii text then some text else internationalToAscii? text
  if ascii.any isForbiddenInDomain then none else some ascii

end CertCatalog.Url
