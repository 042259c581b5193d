import CertCatalog.Bytes.Hex
import CertCatalog.Text.Printable
import CertCatalog.Text.Split

/-!
# Quoted texts

Texts in double quotes as they stand in descriptions of values, and lists of them.
-/

namespace CertCatalog.Text

def codeDigits (c : Char) : List Char :=
  Nat.toDigits 16 c.toNat

def quotedChar (c : Char) : List Char :=
  if c == '"' then ['\\', '"']
  else if c == '\\' then ['\\', '\\']
  else if c == '\t' then ['\\', 't']
  else if c == '\n' then ['\\', 'n']
  else if c == '\r' then ['\\', 'r']
  else if c == '\x00' then ['\\', '0']
  else if isPrintable c then [c]
  else '\\' :: 'u' :: '\x7b' :: codeDigits c ++ ['\x7d']

def quoted (text : String) : String :=
  String.ofList ('"' :: text.toList.flatMap quotedChar ++ ['"'])

def quotedList (texts : List String) : String :=
  "[" ++ joinWith ", " (texts.map quoted) ++ "]"

def describe (name : String) (parts : List (String × String)) : String :=
  name ++ " \x7b " ++ joinWith ", " (parts.map fun (part, value) => part ++ ": " ++ value) ++ " \x7d"

end CertCatalog.Text
