/-!
# Blank characters

The characters that count as white space, and trimming them from the two ends of a text.
-/

namespace CertCatalog.Text

/-- The characters with the Unicode property White_Space. -/
def isBlank (c : Char) : Bool :=
  let code := c.toNat
  (0x09 ≤ code && code ≤ 0x0D) || code == 0x20 || code == 0x85 || code == 0xA0 ||
    code == 0x1680 || (0x2000 ≤ code && code ≤ 0x200A) || code == 0x2028 || code == 0x2029 ||
    code == 0x202F || code == 0x205F || code == 0x3000

def dropBlanks (text : List Char) : List Char :=
  text.dropWhile isBlank

def dropTrailingBlanks (text : List Char) : List Char :=
  (text.reverse.dropWhile isBlank).reverse

def trimChars (text : List Char) : List Char :=
  dropTrailingBlanks (dropBlanks text)

def trim (text : String) : String :=
  String.ofList (trimChars text.toList)

def isAllBlank (text : String) : Bool :=
  text.toList.all isBlank

def nonBlank? (text : String) : Option String :=
  let trimmed := trim text
  if trimmed.isEmpty then none else some trimmed

end CertCatalog.Text
