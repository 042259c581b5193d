import CertCatalog.Certificate
import CertCatalog.Config.VaultEntry
import CertCatalog.Proofs.Instant.ReadBack
import CertCatalog.Proofs.Json.ReadBack
import CertCatalog.Proofs.Json.Records

/-!
# Records written and read back

The JSON texts of certificates, of their details, of their PEM material and of vault entries are
read as the values that were written, but for the tokens of the entries.  The order of the fields
does not matter, and further fields are passed over if their values can be kept.
-/

namespace CertCatalog

open CertCatalog.Text

namespace Json

variable {α : Type}

def readText? (read : Json → Option α) (text : String) : Option α :=
  (parse? text).bind read

/-- An object with the fields of this one in any order, and with further ones. -/
def Extends (added : List (Option String × Json)) (json other : Json) : Prop :=
  ∃ fields all, json = .object fields ∧ other = .object all ∧ all.Perm (fields ++ added)

/--
The text of an object is read as this value.  So is every text of an object that extends it by
fields with other names, exactly if these fields can be kept.
-/
structure ReadsAs (read : Json → Option α) (names : List String)
    (canKeep : Option String × Json → Bool) (json : Json) (value : α) : Prop where
  compact : readText? read json.compact = some value
  extended : ∀ added other text, json.Extends added other →
    (∀ field ∈ added, ∀ name ∈ names, field.1 ≠ some name) → parse? text = some other →
    readText? read text = if added.all canKeep then some value else none

theorem ofFields_eq (fields : List (String × Json)) : ofFields fields = .object (named fields) :=
  rfl

theorem readsAs_of_perm {read : Json → Option α} {names : List String}
    {canKeep : Option String × Json → Bool} {fields : List (String × Json)} {value : α}
    (hwritable : ∀ field ∈ fields, field.2.isWritable = true)
    (hread : ∀ all added, all.Perm (named fields ++ added) →
      (∀ field ∈ added, ∀ name ∈ names, field.1 ≠ some name) →
      read (.object all) = if added.all canKeep then some value else none) :
    ReadsAs read names canKeep (ofFields fields) value where
  compact := by
    have hown := hread (named fields) [] (by simp) (by simp)
    rw [readText?, parse?_compact (isWritable_ofFields hwritable), Option.bind_some, ofFields_eq,
      hown]
    rfl
  extended added other text hextends hnames htext := by
    obtain ⟨known, all, hknown, rfl, hperm⟩ := hextends
    obtain rfl : named fields = known := Json.object.inj hknown
    rw [readText?, htext, Option.bind_some, hread _ added hperm hnames]

end Json

/-! ## Certificates -/

namespace Certificate

theorem nodup_jsonFields (c : Certificate) : (c.jsonFields.map Prod.fst).Nodup := by
  simp [jsonFields]

theorem isWritable_jsonFields (c : Certificate) :
    ∀ field ∈ c.jsonFields, field.2.isWritable = true := by
  simp [jsonFields, Json.isWritable_str, Json.isWritable_strings, Json.isWritable_bool]

theorem instant?_text (t : Instant) : instant? (.str t.text) = some t := by
  rw [instant?, Json.text?_str, Option.bind_some, t.ofText?_text]

theorem ofFields?_lookup (c : Certificate) :
    ofFields? (fieldNames.map (List.lookup · c.jsonFields)) = some c := by
  simp [fieldNames, jsonFields, List.lookup_cons, ofFields?, Json.required?, instant?_text,
    Json.text?_str, Json.bool?, Json.list?_text?_strings]

theorem readsAs_toJson (c : Certificate) :
    Json.ReadsAs ofJson? fieldNames (·.1.isSome) c.toJson c := by
  refine Json.readsAs_of_perm c.isWritable_jsonFields fun all added hperm hnames => ?_
  rw [ofJson?, Json.record?, Json.namedFields?_of_perm c.nodup_jsonFields hperm hnames]
  split
  · exact c.ofFields?_lookup
  · rfl

end Certificate

/-! ## Details -/

namespace CertificateDetails

def ownFields (d : CertificateDetails) : List (String × Json) :=
  [("serialNumber", .str d.serialNumber), ("issuer", .str d.issuer), ("subject", .str d.subject),
   ("keyAlgorithm", .str d.keyAlgorithm), ("keySize", .nat d.keySize.toNat),
   ("fingerprintSHA1", .str d.fingerprintSha1), ("fingerprintSHA256", .str d.fingerprintSha256),
   ("usage", .strings d.usage), ("pem", .str d.pem)]

def jsonFields (d : CertificateDetails) : List (String × Json) :=
  d.certificate.jsonFields ++ d.ownFields

theorem toJson_eq (d : CertificateDetails) : d.toJson = .ofFields d.jsonFields := rfl

theorem nodup_jsonFields (d : CertificateDetails) : (d.jsonFields.map Prod.fst).Nodup := by
  simp [jsonFields, Certificate.jsonFields, ownFields]

theorem isWritable_jsonFields (d : CertificateDetails) :
    ∀ field ∈ d.jsonFields, field.2.isWritable = true := by
  simp [jsonFields, Certificate.jsonFields, ownFields, Json.isWritable_str, Json.isWritable_strings,
    Json.isWritable_bool, Json.isWritable_nat]

theorem lookup_summary (d : CertificateDetails) :
    Certificate.fieldNames.map (List.lookup · d.jsonFields) =
      Certificate.fieldNames.map (List.lookup · d.certificate.jsonFields) := by
  simp [Certificate.fieldNames, jsonFields, Certificate.jsonFields, List.lookup_cons]

theorem lookup_ownFields (d : CertificateDetails) :
    ownFieldNames.map (List.lookup · d.jsonFields) = d.ownFields.map fun field => some field.2 := by
  simp [ownFieldNames, jsonFields, Certificate.jsonFields, ownFields, List.lookup_cons]

theorem canKeep_of_own {name : String} (hname : name ∈ ownFieldNames) (value : Json) :
    canKeep (some name, value) = true := by
  simp [canKeep, hname]

theorem canKeep_of_readable {value : Json} (hreadable : value.isReadable = true)
    (hdepth : value.depth ≤ maxDepth) (name : String) : canKeep (some name, value) = true := by
  simp [canKeep, hreadable, hdepth]

theorem canKeep_jsonFields (d : CertificateDetails) :
    (Json.named d.jsonFields).all canKeep = true := by
  have hvalues : ∀ field ∈ d.certificate.jsonFields,
      field.2.isReadable = true ∧ field.2.depth ≤ maxDepth := by
    simp [Certificate.jsonFields, Json.isReadable_str, Json.isReadable_strings,
      Json.isReadable_bool, Json.depth_str, Json.depth_strings, Json.depth_bool, maxDepth]
  have hkept : ∀ field ∈ d.jsonFields, canKeep (some field.1, field.2) = true := by
    intro field hfield
    rcases List.mem_append.mp hfield with hsummary | hown
    · obtain ⟨hreadable, hdepth⟩ := hvalues field hsummary
      exact canKeep_of_readable hreadable hdepth field.1
    · have hname : field.1 ∈ ownFieldNames := List.mem_map_of_mem hown
      exact canKeep_of_own hname field.2
  rw [Json.named, List.all_map, List.all_eq_true]
  exact hkept

theorem isSome_of_canKeep {field : Option String × Json} (hkept : canKeep field = true) :
    field.1.isSome = true := by
  obtain ⟨_ | name, value⟩ := field
  · cases hkept
  · rfl

theorem readsAs_toJson (d : CertificateDetails) :
    Json.ReadsAs ofJson? (Certificate.fieldNames ++ ownFieldNames) canKeep d.toJson d := by
  rw [toJson_eq]
  refine Json.readsAs_of_perm d.isWritable_jsonFields fun all added hperm hnames => ?_
  have hkeep : all.all canKeep = added.all canKeep := by
    rw [hperm.all_eq, List.all_append, d.canKeep_jsonFields, Bool.true_and]
  rw [ofJson?, hkeep]
  cases hadded : added.all canKeep with
  | false => rfl
  | true =>
      have htexts : added.all (·.1.isSome) = true := by
        rw [List.all_eq_true] at hadded ⊢
        exact fun field hfield => isSome_of_canKeep (hadded field hfield)
      have hsummary := Json.namedFields?_of_perm d.nodup_jsonFields hperm
        fun field hfield name hname =>
          hnames field hfield name (List.mem_append_left ownFieldNames hname)
      have hown := Json.namedFields?_of_perm d.nodup_jsonFields hperm
        fun field hfield name hname =>
          hnames field hfield name (List.mem_append_right Certificate.fieldNames hname)
      rw [hsummary, hown, htexts, d.lookup_summary, d.lookup_ownFields]
      simp [d.certificate.ofFields?_lookup, ownFields, Json.required?, Json.list?_text?_strings,
        Json.nat?_nat d.keySize.toNat_lt]

end CertificateDetails

/-! ## PEM material -/

namespace PemRecord

theorem readsAs_toJson (r : PemRecord) :
    Json.ReadsAs ofJson? ["serialNumber", "pem"] (·.1.isSome) r.toJson r := by
  refine Json.readsAs_of_perm (by simp [Json.isWritable_str]) fun all added hperm hnames => ?_
  rw [ofJson?, Json.record?, Json.namedFields?_of_perm (by simp) hperm hnames]
  split
  · simp [List.lookup_cons, Json.required?]
  · rfl

end PemRecord

/-! ## Vault entries -/

namespace VaultEntry

def jsonFields (e : VaultEntry) : List (String × Json) :=
  [("id", .str e.id), ("address", .str e.address), ("token", e.token.toJson),
   ("pki_mount", .str e.mount), ("pki_mounts", .strings e.mounts),
   ("display_name", .str e.displayName), ("tls_insecure", .bool e.skipVerification)] ++
  optionalField "tls_ca_cert_base64" Json.str e.caBase64 ++
  optionalField "tls_ca_cert" Json.str e.caPath ++
  optionalField "enabled" Json.bool e.enabled

theorem nodup_jsonFields (e : VaultEntry) : (e.jsonFields.map Prod.fst).Nodup := by
  obtain ⟨id, address, token, mount, mounts, displayName, skipVerification, caBase64, caPath,
    enabled⟩ := e
  cases caBase64 <;> cases caPath <;> cases enabled <;> simp [jsonFields, optionalField]

theorem isWritable_jsonFields (e : VaultEntry) :
    ∀ field ∈ e.jsonFields, field.2.isWritable = true := by
  obtain ⟨id, address, token, mount, mounts, displayName, skipVerification, caBase64, caPath,
    enabled⟩ := e
  cases caBase64 <;> cases caPath <;> cases enabled <;>
    simp [jsonFields, optionalField, Secret.toJson, Json.isWritable_str, Json.isWritable_strings,
      Json.isWritable_bool]

theorem ofFields?_lookup (e : VaultEntry) :
    ofFields? (fieldNames.map (List.lookup · e.jsonFields)) =
      some { e with token := ⟨Secret.redacted⟩ } := by
  obtain ⟨id, address, token, mount, mounts, displayName, skipVerification, caBase64, caPath,
    enabled⟩ := e
  cases caBase64 <;> cases caPath <;> cases enabled <;>
    simp [fieldNames, jsonFields, optionalField, List.lookup_cons, ofFields?, Json.orElse?,
      Json.list?_text?_strings, Json.nullable?_str, Json.nullable?_bool, Secret.toJson, Secret.text,
      Json.bool?]

theorem readsAs_toJson (e : VaultEntry) :
    Json.ReadsAs ofJson? fieldNames (·.1.isSome) e.toJson
      { e with token := ⟨Secret.redacted⟩ } := by
  refine Json.readsAs_of_perm e.isWritable_jsonFields fun all added hperm hnames => ?_
  rw [ofJson?, Json.record?, Json.namedFields?_of_perm e.nodup_jsonFields hperm hnames]
  split
  · exact e.ofFields?_lookup
  · rfl

end VaultEntry

/-! ## All records -/

/--
Certificates, their details and PEM material are read from their JSON texts as they were written,
and from every text of an object with the same fields in any order and with further fields that are
named by texts.  Only details, whose further fields are kept until all are known, need values that
can be kept.  A vault entry is read as it was written with a token that says that it is hidden.
-/
theorem records_are_read_as_written :
    (∀ c : Certificate,
      Json.ReadsAs Certificate.ofJson? Certificate.fieldNames (·.1.isSome) c.toJson c) ∧
    (∀ d : CertificateDetails, Json.ReadsAs CertificateDetails.ofJson?
      (Certificate.fieldNames ++ CertificateDetails.ownFieldNames) CertificateDetails.canKeep
      d.toJson d) ∧
    (∀ r : PemRecord,
      Json.ReadsAs PemRecord.ofJson? ["serialNumber", "pem"] (·.1.isSome) r.toJson r) ∧
    ∀ e : VaultEntry, Json.ReadsAs VaultEntry.ofJson? VaultEntry.fieldNames (·.1.isSome)
      e.toJson { e with token := ⟨Secret.redacted⟩ } :=
  ⟨Certificate.readsAs_toJson, CertificateDetails.readsAs_toJson, PemRecord.readsAs_toJson,
    VaultEntry.readsAs_toJson⟩

/-! ## Values that cannot be kept -/

def Json.nested : Nat → Json
  | 0 => .null
  | levels + 1 => .array [nested levels]

theorem Json.depth_nested (levels : Nat) : (nested levels).depth = levels := by
  induction levels with
  | zero => rfl
  | succ levels ih => simp [nested, depth, depth.depthItems, ih]

theorem Json.isWritable_nested (levels : Nat) : (nested levels).isWritable = true := by
  induction levels with
  | zero => rfl
  | succ levels ih => simp [nested, isWritable, isWritable.itemsWritable, ih]

def sampleDetails : CertificateDetails :=
  .ofSummary
    { id := "pki:0a", commonName := "leaf", sans := [], createdAt := .epoch, expiresAt := .epoch
      revoked := false }
    "0a"

def extendedSample (value : Json) : Json :=
  .ofFields (("extra", value) :: sampleDetails.jsonFields)

theorem readText?_extendedSample {value : Json} (hvalue : value.isWritable = true) :
    Json.readText? CertificateDetails.ofJson? (extendedSample value).compact =
      if CertificateDetails.canKeep (some "extra", value) then some sampleDetails else none := by
  have hextends : sampleDetails.toJson.Extends [(some "extra", value)] (extendedSample value) :=
    ⟨_, _, rfl, rfl, (List.perm_append_singleton _ _).symm⟩
  have hparse : Json.parse? (extendedSample value).compact = some (extendedSample value) := by
    refine Json.parse?_compact (Json.isWritable_ofFields ?_)
    exact List.forall_mem_cons.mpr ⟨hvalue, sampleDetails.isWritable_jsonFields⟩
  have hread := sampleDetails.readsAs_toJson.extended _ _ _ hextends
    (by simp [Certificate.fieldNames, CertificateDetails.ownFieldNames]) hparse
  simpa using hread

/-- One further field that is nested too deeply or holds too large a number, and nothing is read. -/
theorem unkept_fields_are_refused :
    Json.readText? CertificateDetails.ofJson? sampleDetails.toJson.compact = some sampleDetails ∧
      Json.readText? CertificateDetails.ofJson? (extendedSample (.nested 127)).compact = none ∧
      Json.readText? CertificateDetails.ofJson? (extendedSample (.number "1e999")).compact =
        none := by
  refine ⟨sampleDetails.readsAs_toJson.compact, ?_, ?_⟩
  · rw [readText?_extendedSample (Json.isWritable_nested 127)]
    simp [CertificateDetails.canKeep, CertificateDetails.ownFieldNames, Json.depth_nested,
      CertificateDetails.maxDepth]
  · rw [readText?_extendedSample (by decide)]
    exact if_neg (by decide +kernel)

end CertCatalog
