import CertCatalog.Bytes.Base64
import CertCatalog.Bytes.Utf8
import CertCatalog.Text.Blank
import CertCatalog.Text.Split

/-!
# PEM armour

The first block of a text: a labelled begin line, lines of base64 and an end line.  Whatever stands
before the begin line or after the end line plays no part.
-/

namespace CertCatalog.Pem

open CertCatalog.Text CertCatalog.Bytes

structure Block where
  label : String
  contents : Bytes
  deriving DecidableEq, Repr

inductive Error where
  | missingHeader
  | invalidHeader
  | unfinished
  | invalidBase64
  deriving DecidableEq, Repr

def Error.message : Error → String
  | .missingHeader => "Parsing Error: MissingHeader"
  | .invalidHeader => "Parsing Error: InvalidHeader"
  | .unfinished => "Parsing Error: IncompletePEM"
  | .invalidBase64 => "Parsing Error: Base64DecodeError"

def lines : List Char → List (List Char)
  | [] => []
  | c :: rest =>
      if c == '\n' then [c] :: lines rest
      else
        match lines rest with
        | [] => [[c]]
        | line :: more =>
            (c :: line) :: more

def dashes : List Char := "-----".toList

def beginMark : List Char := "-----BEGIN ".toList

def endMark : List Char := "-----END ".toList

def isBegin (line : List Char) : Bool :=
  beginMark.isPrefixOf line

def isEnd (line : List Char) : Bool :=
  endMark.isPrefixOf line

def before? (mark : List Char) : List Char → Option (List Char)
  | [] => if mark.isEmpty then some [] else none
  | c :: rest =>
      if mark.isPrefixOf (c :: rest) then some []
      else (before? mark rest).map (c :: ·)

/-- The label of a begin line, which ends at the first dash. -/
def label? (line : List Char) : Option (List Char) :=
  (before? dashes (line.drop beginMark.length)).map (·.takeWhile (· != '-'))

def symbols (body : List (List Char)) : Bytes :=
  encodeUtf8 (body.flatMap dropTrailingBlanks)

def readBlock (header : List Char) (rest : List (List Char)) : Except Error Block :=
  match label? header with
  | none => .error .invalidHeader
  | some label =>
      if !rest.any isEnd then .error .unfinished
      else
        match Base64.decodeGroups? (symbols (rest.takeWhile (!isEnd ·))) with
        | none => .error .invalidBase64
        | some contents => .ok { label := String.ofList label, contents := contents }

def readLines (text : List (List Char)) : Except Error Block :=
  match text.dropWhile (!isBegin ·) with
  | [] => .error .missingHeader
  | header :: rest => readBlock header rest

def read (text : String) : Except Error Block :=
  readLines (lines text.toList)

end CertCatalog.Pem
