import CertCatalog.Digest.Sha1
import CertCatalog.Digest.Sha256
import CertCatalog.IpAddress
import CertCatalog.Pem
import CertCatalog.X509.Certificate

/-!
# Attributes of a stored certificate

What the catalog learns from the first PEM block of a stored record.
-/

namespace CertCatalog

open CertCatalog.Bytes

inductive DecodeError where
  | missingPem (cause : Pem.Error)
  | wrongLabel (label : String)
  | invalidCertificate
  | invalidValidity
  deriving DecidableEq, Repr

/-- The detail of an encoding fault is not told apart further. -/
def DecodeError.message : DecodeError → String
  | .missingPem cause => "no PEM block found: " ++ cause.message
  | .wrongLabel label => "PEM block is labelled '" ++ label ++ "', expected CERTIFICATE"
  | .invalidCertificate => "invalid X.509 certificate: malformed encoding"
  | .invalidValidity => "validity timestamp out of range"

structure Attributes where
  commonName : String
  /-- DNS names, then IP addresses, then e-mail addresses. -/
  sans : List String
  notBefore : Instant
  notAfter : Instant
  issuer : String
  subject : String
  keyAlgorithm : String
  keySize : UInt32
  fingerprintSha1 : String
  fingerprintSha256 : String
  usage : List String
  deriving DecidableEq, Repr

/-! ## Alternative names -/

structure NameGroups where
  dns : List String
  ips : List String
  emails : List String
  deriving DecidableEq, Repr

namespace NameGroups

def empty : NameGroups :=
  { dns := [], ips := [], emails := [] }

/-- Addresses of a length other than 4 and 16 have no text and are passed over. -/
def add (groups : NameGroups) : X509.GeneralName → NameGroups
  | .dns host => { groups with dns := groups.dns ++ [host] }
  | .ip address =>
      match IpAddress.text? address with
      | some text => { groups with ips := groups.ips ++ [text] }
      | none => groups
  | .email address => { groups with emails := groups.emails ++ [address] }
  | .other _ => groups

def names (groups : NameGroups) : List String :=
  groups.dns ++ groups.ips ++ groups.emails

end NameGroups

def reportedNames (names : List X509.GeneralName) : List String :=
  (names.foldl NameGroups.add .empty).names

/-! ## Decoding -/

def Attributes.ofDer (der : Bytes) : Except DecodeError Attributes :=
  match X509.ofDer? der with
  | none => .error .invalidCertificate
  | some certificate =>
      match Instant.ofUnixSeconds? certificate.validity.notBefore,
          Instant.ofUnixSeconds? certificate.validity.notAfter with
      | some notBefore, some notAfter =>
          let key := certificate.publicKey.describe
          .ok
            { commonName := X509.commonName certificate.subject
              sans := reportedNames (X509.alternativeNames certificate.extensions)
              notBefore := notBefore
              notAfter := notAfter
              issuer := X509.nameText certificate.issuer
              subject := X509.nameText certificate.subject
              keyAlgorithm := key.algorithm
              keySize := UInt32.ofNat key.size
              fingerprintSha1 := hex (Digest.Sha1.digest der)
              fingerprintSha256 := hex (Digest.Sha256.digest der)
              usage := X509.usageNames certificate.extensions }
      | _, _ => .error .invalidValidity

def certificateLabel : String := "CERTIFICATE"

def Attributes.ofBlock (block : Pem.Block) : Except DecodeError Attributes :=
  if block.label != certificateLabel then .error (.wrongLabel block.label)
  else Attributes.ofDer block.contents

def Attributes.ofPem (pem : String) : Except DecodeError Attributes :=
  match Pem.read pem with
  | .error cause => .error (.missingPem cause)
  | .ok block => Attributes.ofBlock block

end CertCatalog
