import CertCatalog.X509.Extension
import CertCatalog.X509.PublicKey
import CertCatalog.X509.Validity

/-!
# X.509 certificates

The parts of an encoded certificate that the catalog reports.  The signature is not checked.
-/

namespace CertCatalog.X509

open CertCatalog.Bytes CertCatalog.Der

structure Certificate where
  issuer : Name
  subject : Name
  validity : Validity
  publicKey : PublicKeyInfo
  extensions : List Extension
  deriving DecidableEq, Repr

def version : Reader Unit := do
  match ← optional 0 with
  | none => pure ()
  | some e =>
      match e.header.tagClass, word e.contents with
      | .contextSpecific, some _ => pure ()
      | _, _ => failure

def serialNumber : Reader Bytes := do
  let e ← openElement
  if e.tag == integerTag then pure e.contents else failure

def uniqueId (tag : Nat) : Reader Unit := do
  match ← optional tag with
  | none => pure ()
  | some e =>
      if e.header.tagClass == .contextSpecific && !e.constructed &&
          (bitStringBytes? e.contents).isSome then pure ()
      else failure

def signedPart : Reader Certificate :=
  sequence do
    version
    let _ ← serialNumber
    let _ ← algorithm
    let issuer ← name
    let validity ← validity
    let subject ← name
    let publicKey ← publicKeyInfo
    uniqueId 1
    uniqueId 2
    let extensions ← extensions
    pure
      { issuer := issuer, subject := subject, validity := validity
        publicKey := publicKey, extensions := extensions }

def certificate : Reader Certificate :=
  sequence do
    let signed ← signedPart
    let _ ← algorithm
    let _ ← bitString
    pure signed

def ofDer? (der : Bytes) : Option Certificate :=
  (certificate.run der).map (·.1)

end CertCatalog.X509
