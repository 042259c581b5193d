import CertCatalog.Bytes.Base64
import CertCatalog.CatalogError
import CertCatalog.X509.Certificate

/-!
# Bundles of trusted certificates

PEM text in bytes with any number of sections, of which the certificates become trusted.
-/

namespace CertCatalog.Http.TrustBundle

open CertCatalog.Bytes

/-! ## Sections -/

structure Section where
  label : Bytes
  contents : Bytes
  deriving DecidableEq, Repr

def isLineEnd (b : UInt8) : Bool :=
  b == 0x0A || b == 0x0D

def lines : Bytes → List Bytes
  | [] => []
  | b :: rest =>
      if isLineEnd b then [] :: lines rest
      else
        match lines rest with
        | [] => [[b]]
        | line :: more => (b :: line) :: more

def beginMark : Bytes := utf8 "-----BEGIN "

def endMark : Bytes := utf8 "-----END "

def dashes : Bytes := utf8 "-----"

/-- The label of a begin line, which ends in exactly five dashes and perhaps spaces. -/
def label? (line : Bytes) : Option Bytes :=
  let text := (line.reverse.dropWhile (· == 0x20))
  let label := text.dropWhile (· == 0x2D)
  if text.length - label.length == 5 then some (label.reverse.drop beginMark.length) else none

def knownLabels : List Bytes :=
  ["CERTIFICATE", "PUBLIC KEY", "RSA PRIVATE KEY", "PRIVATE KEY", "EC PRIVATE KEY", "X509 CRL",
   "CERTIFICATE REQUEST", "ECHCONFIG"].map utf8

def isSpace (b : UInt8) : Bool :=
  b == 0x20 || b == 0x09 || isLineEnd b

def close? (label : Bytes) (symbols : Bytes) : Option (List Section) :=
  if knownLabels.contains label then
    match Base64.decode (symbols.filter (!isSpace ·)) with
    | .ok contents => some [{ label := label, contents := contents }]
    | .error _ => none
  else some []

/--
The sections of lines.  `current` is the label of the open section with the symbols read for it; a
begin line within a section starts another one.
-/
def sections (current : Option (Bytes × Bytes)) : List Bytes → Option (List Section)
  | [] => if current.isSome then none else some []
  | line :: rest =>
      if beginMark.isPrefixOf line then
        match label? line with
        | some label => sections (some (label, (current.map (·.2)).getD [])) rest
        | none => none
      else
        match current with
        | none => sections none rest
        | some (label, symbols) =>
            if (endMark ++ label ++ dashes).isPrefixOf line then do
              let closed ← close? label symbols
              let others ← sections none rest
              pure (closed ++ others)
            else sections (some (label, symbols ++ line)) rest

/-! ## Checking -/

def isCertificate (der : Bytes) : Bool :=
  match X509.certificate.run der with
  | some (_, rest) => rest.isEmpty
  | none => false

def check (bundle : Bytes) : Outcome Unit :=
  match sections none (lines bundle) with
  | none => .error (.config "invalid CA certificate bundle: builder error")
  | some found =>
      if (found.filter (·.label == utf8 "CERTIFICATE")).all fun s => isCertificate s.contents then
        .ok ()
      else .error (.config "failed to create HTTP client: builder error")

end CertCatalog.Http.TrustBundle
