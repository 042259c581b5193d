import CertCatalog.Der.Primitive

/-!
# Attribute types

The labels that stand before the values of a name: abbreviations for the most common types, the
registered short name for other known identifiers, and the identifier itself for the rest.
-/

namespace CertCatalog.X509

open CertCatalog.Der

def abbreviations : List (List Nat × String) :=
  [([2, 5, 4, 3], "CN"), ([2, 5, 4, 6], "C"), ([2, 5, 4, 7], "L"), ([2, 5, 4, 8], "ST"),
   ([2, 5, 4, 10], "O"), ([2, 5, 4, 11], "OU"), ([0, 9, 2342, 19200300, 100, 1, 25], "DC"),
   ([1, 2, 840, 113549, 1, 9, 1], "Email")]

def directoryAttributes : List (Nat × String) :=
  [(0, "objectClass"), (1, "aliasedEntryName"), (2, "knowledgeInformation"), (4, "surname"),
   (5, "serialNumber"), (9, "streetAddress"), (12, "title"), (13, "description"),
   (14, "searchGuide"), (15, "businessCategory"), (17, "postalCode"), (41, "name"),
   (42, "givenName"), (43, "initials"), (44, "generationQualifier"), (45, "uniqueIdentifier"),
   (46, "dnQualifier")]

def extensionNames : List (Nat × String) :=
  [(14, "subjectKeyIdentifier"), (15, "keyUsage"), (16, "privateKeyUsagePeriod"),
   (17, "subjectAltName"), (18, "issuerAltName"), (19, "basicConstraints"), (20, "crlNumber"),
   (21, "reasonCode"), (24, "invalidityDate"), (27, "deltaCRLIndicator"),
   (28, "issuingDistributionPoint"), (29, "certificateIssuer"), (30, "nameConstraints"),
   (31, "crlDistributionPoints"), (32, "certificatePolicies"), (33, "policyMappings"),
   (35, "authorityKeyIdentifier"), (36, "policyConstraints"), (37, "extendedKeyUsage"),
   (46, "freshestCRL"), (54, "inhibitantAnyPolicy")]

def rsaAlgorithms : List (Nat × String) :=
  [(1, "rsaEncryption"), (2, "md2WithRSAEncryption"), (3, "md4WithRSAEncryption"),
   (4, "md5WithRSAEncryption"), (5, "sha1WithRSAEncryption"), (8, "id-mgf1"),
   (10, "rsassa-pss"), (11, "sha256WithRSAEncryption"), (12, "sha384WithRSAEncryption"),
   (13, "sha512WithRSAEncryption"), (14, "sha224WithRSAEncryption")]

def messageAttributes : List (Nat × String) :=
  [(2, "unstructuredName"), (3, "contentType"), (4, "id-messageDigest"), (5, "signing-time"),
   (7, "challengePassword"), (14, "extensionRequest"), (15, "smimeCapabilities"),
   (20, "friendlyName")]

def otherNames : List (List Nat × String) :=
  [([0, 9, 2342, 19200300, 100, 1, 1], "uid"),
   ([1, 2, 840, 10040, 4, 1], "id-dsa"), ([1, 2, 840, 10040, 4, 3], "dsa-with-sha1"),
   ([1, 2, 840, 10045, 2, 1], "id-ecPublicKey"), ([1, 2, 840, 10045, 3, 1, 7], "prime256v1"),
   ([1, 2, 840, 10045, 4, 3, 1], "ecdsa-with-SHA224"),
   ([1, 2, 840, 10045, 4, 3, 2], "ecdsa-with-SHA256"),
   ([1, 2, 840, 10045, 4, 3, 3], "ecdsa-with-SHA384"),
   ([1, 2, 840, 10045, 4, 3, 4], "ecdsa-with-SHA512"),
   ([1, 3, 6, 1, 4, 1, 311, 60, 2, 1, 1], "msJurisdictionLocality"),
   ([1, 3, 6, 1, 4, 1, 311, 60, 2, 1, 2], "msJurisdictionStateOrProvince"),
   ([1, 3, 6, 1, 4, 1, 311, 60, 2, 1, 3], "msJurisdictionCountry"),
   ([1, 3, 101, 112], "ed25519"), ([1, 3, 101, 113], "ed448")]

def labelledTypes : List (List Nat × String) :=
  abbreviations ++ otherNames ++
    directoryAttributes.map (fun (arc, label) => ([2, 5, 4, arc], label)) ++
    extensionNames.map (fun (arc, label) => ([2, 5, 29, arc], label)) ++
    rsaAlgorithms.map (fun (arc, label) => ([1, 2, 840, 113549, 1, 1, arc], label)) ++
    messageAttributes.map (fun (arc, label) => ([1, 2, 840, 113549, 1, 9, arc], label))

def labels : List (ObjectId × String) :=
  labelledTypes.map fun (arcs, label) => (ObjectId.ofArcs arcs, label)

def typeLabel (kind : ObjectId) : String :=
  match labels.find? (·.1 == kind) with
  | some (_, label) => label
  | none => "OID(" ++ kind.text ++ ")"

end CertCatalog.X509
