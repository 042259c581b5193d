import CertCatalog.Attributes
import CertCatalog.Instant.Text
import CertCatalog.Json.Decoder
import CertCatalog.Json.Printer
import CertCatalog.Text.Column

/-!
# Certificates of the catalog

The summary that listings hold, the full details of one certificate, and its PEM material.
-/

namespace CertCatalog

structure Certificate where
  id : String
  commonName : String
  sans : List String
  createdAt : Instant
  expiresAt : Instant
  revoked : Bool
  deriving DecidableEq, Repr

structure CertificateDetails where
  certificate : Certificate
  serialNumber : String
  issuer : String
  subject : String
  keyAlgorithm : String
  keySize : UInt32
  fingerprintSha1 : String
  fingerprintSha256 : String
  usage : List String
  pem : String
  deriving DecidableEq, Repr

structure PemRecord where
  serialNumber : String
  pem : String
  deriving DecidableEq, Repr

namespace Certificate

def ofAttributes (id : String) (a : Attributes) : Certificate :=
  { id := id
    commonName := a.commonName
    sans := a.sans
    createdAt := a.notBefore
    expiresAt := a.notAfter
    revoked := false }

/-- A revocation that has been seen is never taken back. -/
def markRevoked (c : Certificate) : Certificate :=
  { c with revoked := true }

/-- Whole days until the certificate expires, rounded toward zero; negative long after that. -/
def daysUntilExpiry (c : Certificate) (now : Instant) : Int :=
  now.daysBetween c.expiresAt

/-! ## Order -/

def precedes (left right : Certificate) : Bool :=
  left.commonName < right.commonName ||
    (left.commonName == right.commonName && !(right.id < left.id))

def sort (certificates : List Certificate) : List Certificate :=
  certificates.mergeSort precedes

theorem sort_perm (certificates : List Certificate) : (sort certificates).Perm certificates :=
  List.mergeSort_perm certificates precedes

/-! ## Table row -/

def row (c : Certificate) (now : Instant) : String :=
  Text.alignLeft 48 c.id ++ " " ++ Text.alignLeft 32 c.commonName ++ " " ++
    Text.alignLeft 18 c.expiresAt.minuteText ++ " " ++
    Text.alignRight 6 (toString (c.daysUntilExpiry now)) ++ " " ++
    (if c.revoked then "yes" else "no")

/-! ## JSON -/

def jsonFields (c : Certificate) : List (String × Json) :=
  [("id", .str c.id), ("commonName", .str c.commonName), ("sans", .strings c.sans),
   ("createdAt", .str c.createdAt.text), ("expiresAt", .str c.expiresAt.text),
   ("revoked", .bool c.revoked)]

def toJson (c : Certificate) : Json :=
  .ofFields c.jsonFields

def fieldNames : List String :=
  ["id", "commonName", "sans", "createdAt", "expiresAt", "revoked"]

def instant? (json : Json) : Option Instant :=
  json.text?.bind Instant.ofText?

def ofFields? : List (Option Json) → Option Certificate
  | [id, commonName, sans, createdAt, expiresAt, revoked] => do
      pure
        { id := ← Json.required? Json.text? id
          commonName := ← Json.required? Json.text? commonName
          sans := ← Json.required? (Json.list? Json.text?) sans
          createdAt := ← Json.required? instant? createdAt
          expiresAt := ← Json.required? instant? expiresAt
          revoked := ← Json.required? Json.bool? revoked }
  | _ => none

def ofJson? (json : Json) : Option Certificate :=
  (json.record? fieldNames).bind ofFields?

end Certificate

namespace CertificateDetails

def ofAttributes (id serial : String) (a : Attributes) (pem : String) : CertificateDetails :=
  { certificate := Certificate.ofAttributes id a
    serialNumber := serial
    issuer := a.issuer
    subject := a.subject
    keyAlgorithm := a.keyAlgorithm
    keySize := a.keySize
    fingerprintSha1 := a.fingerprintSha1
    fingerprintSha256 := a.fingerprintSha256
    usage := a.usage
    pem := pem }

def ofSummary (certificate : Certificate) (serial : String) : CertificateDetails :=
  { certificate := certificate
    serialNumber := serial
    issuer := ""
    subject := ""
    keyAlgorithm := ""
    keySize := 0
    fingerprintSha1 := ""
    fingerprintSha256 := ""
    usage := []
    pem := "" }

def toJson (d : CertificateDetails) : Json :=
  .ofFields (d.certificate.jsonFields ++
    [("serialNumber", .str d.serialNumber), ("issuer", .str d.issuer),
     ("subject", .str d.subject), ("keyAlgorithm", .str d.keyAlgorithm),
     ("keySize", .nat d.keySize.toNat), ("fingerprintSHA1", .str d.fingerprintSha1),
     ("fingerprintSHA256", .str d.fingerprintSha256), ("usage", .strings d.usage),
     ("pem", .str d.pem)])

def ownFieldNames : List String :=
  ["serialNumber", "issuer", "subject", "keyAlgorithm", "keySize", "fingerprintSHA1",
   "fingerprintSHA256", "usage", "pem"]

/-- How deep the values of fields that are not its own may be nested. -/
def maxDepth : Nat := 126

/-- A field that is not one of the own fields is kept until all fields are known. -/
def canKeep (field : Option String × Json) : Bool :=
  match field.1 with
  | some name =>
      ownFieldNames.contains name || (field.2.isReadable && field.2.depth ≤ maxDepth)
  | none => false

/-- Details are read from objects only. -/
def ofJson? : Json → Option CertificateDetails
  | .object fields => do
      if !fields.all canKeep then none
      else
        let certificate ←
          (Json.namedFields? fields Certificate.fieldNames).bind Certificate.ofFields?
        match ← Json.namedFields? fields ownFieldNames with
        | [serial, issuer, subject, algorithm, size, sha1, sha256, usage, pem] =>
            pure
              { certificate := certificate
                serialNumber := ← Json.required? Json.text? serial
                issuer := ← Json.required? Json.text? issuer
                subject := ← Json.required? Json.text? subject
                keyAlgorithm := ← Json.required? Json.text? algorithm
                keySize := UInt32.ofNat (← Json.required? (Json.nat? 4294967296) size)
                fingerprintSha1 := ← Json.required? Json.text? sha1
                fingerprintSha256 := ← Json.required? Json.text? sha256
                usage := ← Json.required? (Json.list? Json.text?) usage
                pem := ← Json.required? Json.text? pem }
        | _ => none
  | _ => none

end CertificateDetails

namespace PemRecord

def toJson (r : PemRecord) : Json :=
  .ofFields [("serialNumber", .str r.serialNumber), ("pem", .str r.pem)]

def ofJson? (json : Json) : Option PemRecord := do
  match ← json.record? ["serialNumber", "pem"] with
  | [serial, pem] =>
      pure
        { serialNumber := ← Json.required? Json.text? serial
          pem := ← Json.required? Json.text? pem }
  | _ => none

end PemRecord
end CertCatalog
