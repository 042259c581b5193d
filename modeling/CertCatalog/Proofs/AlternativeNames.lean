import CertCatalog.Certificate
import CertCatalog.Proofs.Pem

/-!
# Alternative names

The alternative names of a certificate are gone through once and sorted into three groups.  Nothing
is lost or reordered within a group: the report is the DNS names of the extension, then the texts of
its IP addresses, then its e-mail addresses.
-/

namespace CertCatalog

open CertCatalog.Bytes

/-! ## Names of one kind -/

namespace X509

def hosts (names : List GeneralName) : List String :=
  names.filterMap fun
    | .dns host => some host
    | _ => none

def addresses (names : List GeneralName) : List Bytes :=
  names.filterMap fun
    | .ip address => some address
    | _ => none

def mailboxes (names : List GeneralName) : List String :=
  names.filterMap fun
    | .email address => some address
    | _ => none

def hasAddressLength (address : Bytes) : Bool :=
  address.length == 4 || address.length == 16

def addressText (address : Bytes) : String :=
  if address.length = 4 then IpAddress.dotted address else IpAddress.text6 address

def addressTexts (names : List GeneralName) : List String :=
  ((addresses names).filter hasAddressLength).map addressText

theorem hosts_append (names more : List GeneralName) :
    hosts (names ++ more) = hosts names ++ hosts more :=
  List.filterMap_append

theorem addressTexts_append (names more : List GeneralName) :
    addressTexts (names ++ more) = addressTexts names ++ addressTexts more := by
  simp only [addressTexts, addresses, List.filterMap_append, List.filter_append, List.map_append]

theorem mailboxes_append (names more : List GeneralName) :
    mailboxes (names ++ more) = mailboxes names ++ mailboxes more :=
  List.filterMap_append

theorem text?_of_hasAddressLength {address : Bytes} (h : hasAddressLength address = true) :
    IpAddress.text? address = some (addressText address) := by
  simp only [hasAddressLength, Bool.or_eq_true, beq_iff_eq] at h
  rcases h with h | h <;> simp [IpAddress.text?, addressText, h]

theorem text?_of_not_hasAddressLength {address : Bytes} (h : hasAddressLength address = false) :
    IpAddress.text? address = none := by
  simp only [hasAddressLength, Bool.or_eq_false_iff, beq_eq_false_iff_ne] at h
  obtain ⟨hshort, hlong⟩ := h
  unfold IpAddress.text?
  split
  · contradiction
  · contradiction
  · rfl

end X509

open CertCatalog.X509

/-! ## One pass -/

namespace NameGroups

/-- The groups hold the reported names among those that have been seen. -/
structure Collects (groups : NameGroups) (seen : List GeneralName) : Prop where
  dns : groups.dns = hosts seen
  ips : groups.ips = addressTexts seen
  emails : groups.emails = mailboxes seen

theorem collects_empty : empty.Collects [] :=
  ⟨rfl, rfl, rfl⟩

theorem add_eq (groups : NameGroups) (name : GeneralName) :
    groups.add name =
      { dns := groups.dns ++ hosts [name]
        ips := groups.ips ++ addressTexts [name]
        emails := groups.emails ++ mailboxes [name] } := by
  cases name with
  | dns host => simp [NameGroups.add, hosts, addressTexts, addresses, mailboxes]
  | email address => simp [NameGroups.add, hosts, addressTexts, addresses, mailboxes]
  | other kind => simp [NameGroups.add, hosts, addressTexts, addresses, mailboxes]
  | ip address =>
      cases hlength : hasAddressLength address with
      | true =>
          simp [NameGroups.add, text?_of_hasAddressLength hlength, hosts, addressTexts, addresses,
            mailboxes, hlength]
      | false =>
          simp [NameGroups.add, text?_of_not_hasAddressLength hlength, hosts, addressTexts,
            addresses, mailboxes, hlength]

theorem Collects.add {groups : NameGroups} {seen : List GeneralName} (h : groups.Collects seen)
    (name : GeneralName) : (groups.add name).Collects (seen ++ [name]) := by
  rw [add_eq]
  exact {
    dns := by rw [h.dns, hosts_append]
    ips := by rw [h.ips, addressTexts_append]
    emails := by rw [h.emails, mailboxes_append] }

theorem Collects.foldl {groups : NameGroups} {seen : List GeneralName} (h : groups.Collects seen)
    (names : List GeneralName) :
    (names.foldl NameGroups.add groups).Collects (seen ++ names) := by
  induction names generalizing groups seen with
  | nil => simpa using h
  | cons name names ih => simpa using ih (h.add name)

end NameGroups

theorem reportedNames_eq (names : List GeneralName) :
    reportedNames names = hosts names ++ addressTexts names ++ mailboxes names := by
  obtain ⟨hdns, hips, hemails⟩ := NameGroups.collects_empty.foldl names
  rw [reportedNames, NameGroups.names, hdns, hips, hemails, List.nil_append]

/-! ## The extension -/

namespace X509

def Certificate.alternativeNameValues (c : Certificate) : List Bytes :=
  (c.extensions.filter (·.id == alternativeNamesId)).map (·.value)

def Validity.IsSupported (v : Validity) : Prop :=
  (Instant.ofUnixSeconds? v.notBefore).isSome ∧ (Instant.ofUnixSeconds? v.notAfter).isSome

theorem valueOf?_eq_some_iff {c : Certificate} {value : Bytes} :
    valueOf? c.extensions alternativeNamesId = some value ↔ c.alternativeNameValues = [value] := by
  unfold valueOf? Certificate.alternativeNameValues
  split
  · next only honly => simp [honly]
  · next hother =>
      constructor
      · intro h
        cases h
      · intro h
        obtain ⟨only, honly, -⟩ := List.map_eq_singleton_iff.mp h
        exact absurd honly (hother only)

theorem alternativeNames_of_value {c : Certificate} {value : Bytes} {names : List GeneralName}
    (hvalue : c.alternativeNameValues = [value]) (hnames : generalNames? value = some names) :
    alternativeNames c.extensions = names := by
  rw [alternativeNames, valueOf?_eq_some_iff.mpr hvalue, Option.bind_some, hnames, Option.getD_some]

theorem alternativeNames_eq_nil {c : Certificate}
    (hnone : ∀ value, c.alternativeNameValues = [value] → generalNames? value = none) :
    alternativeNames c.extensions = [] := by
  rw [alternativeNames]
  cases hvalue : valueOf? c.extensions alternativeNamesId with
  | none => rfl
  | some value => rw [Option.bind_some, hnone value (valueOf?_eq_some_iff.mp hvalue)]; rfl

end X509

/-! ## Decoding -/

namespace Attributes

theorem ofDer_cases {der : Bytes} {c : X509.Certificate} (hder : X509.ofDer? der = some c) :
    (c.validity.IsSupported ∧ ∃ attributes, ofDer der = .ok attributes ∧
        attributes.sans = reportedNames (alternativeNames c.extensions)) ∨
      (¬c.validity.IsSupported ∧ ofDer der = .error .invalidValidity) := by
  rw [ofDer, hder, Validity.IsSupported]
  dsimp only
  cases hbefore : Instant.ofUnixSeconds? c.validity.notBefore with
  | none => exact .inr ⟨by simp, rfl⟩
  | some notBefore =>
      cases hafter : Instant.ofUnixSeconds? c.validity.notAfter with
      | none => exact .inr ⟨by simp, rfl⟩
      | some notAfter =>
          refine .inl ⟨⟨rfl, rfl⟩, _, rfl, ?_⟩
          rfl

/--
A text with a certificate is refused for its period only.  Otherwise it is reported with the DNS
names, the texts of the addresses of 4 or 16 bytes and the e-mail addresses of its one extension for
alternative names, and without any name when there is no such extension, more than one or one that
cannot be read.  Summary and details show this report.
-/
theorem alternative_names_are_collected {pem : String} {block : Pem.Block} {c : X509.Certificate}
    (hblock : Pem.read pem = .ok block) (hlabel : block.label = certificateLabel)
    (hder : X509.ofDer? block.contents = some c) :
    ((∃ attributes, ofPem pem = .ok attributes) ↔ c.validity.IsSupported) ∧
      ∀ attributes, ofPem pem = .ok attributes →
        (∀ value names, c.alternativeNameValues = [value] → generalNames? value = some names →
          attributes.sans = hosts names ++
            ((addresses names).filter hasAddressLength).map addressText ++ mailboxes names) ∧
        ((∀ value, c.alternativeNameValues = [value] → generalNames? value = none) →
          attributes.sans = []) ∧
        ∀ id serial text, (Certificate.ofAttributes id attributes).sans = attributes.sans ∧
          (CertificateDetails.ofAttributes id serial attributes text).certificate.sans =
            attributes.sans := by
  have hpem : ofPem pem = ofDer block.contents := by
    rw [ofPem, hblock]
    simp only [ofBlock, hlabel, bne_self_eq_false, Bool.false_eq_true, if_false]
  rw [hpem]
  rcases ofDer_cases hder with ⟨hsupported, found, hfound, hsans⟩ | ⟨hlost, herror⟩
  · rw [hfound]
    refine ⟨iff_of_true ⟨found, rfl⟩ hsupported, ?_⟩
    rintro attributes ⟨⟩
    refine ⟨fun value names hvalue hnames => ?_, fun hnone => ?_, fun id serial text => ⟨rfl, rfl⟩⟩
    · rw [hsans, alternativeNames_of_value hvalue hnames, reportedNames_eq, addressTexts]
    · rw [hsans, alternativeNames_eq_nil hnone]
      rfl
  · rw [herror]
    refine ⟨iff_of_false (fun ⟨_, hok⟩ => nomatch hok) hlost, ?_⟩
    intro attributes hok
    cases hok

def mixedNamesPem : String :=
  Pem.completeLines
    ["-----BEGIN CERTIFICATE-----",
     "MIGXMIGLAgEBMAQGAioDMAAwHhcNMjUwMTAxMDAwMDAwWhcNMjYw",
     "MTAxMDAwMDAwWjAMMQowCAYDVQQDDAFhMAkwBAYCKgMDAQCjRTBD",
     "MEEGA1UdEQQ6MDiBA2VAeIIDYi54hwQKAAABhwUBAgMEBYYDdTp4",
     "ggNhLniHECABDbgAAAAAAAAAAAAAAAGCA2IueDAEBgIqAwMBAA==",
     "-----END CERTIFICATE-----"]

def mixedNames : List GeneralName :=
  [.email "e@x", .dns "b.x", .ip [10, 0, 0, 1], .ip [1, 2, 3, 4, 5], .other 6, .dns "a.x",
   .ip [0x20, 0x01, 0x0D, 0xB8, 0, 0, 0, 0, 0, 0, 0, 0, 0, 0, 0, 1], .dns "b.x"]

theorem alternative_names_of_mixed : ∃ block c attributes,
    Pem.read mixedNamesPem = .ok block ∧ block.label = certificateLabel ∧
      X509.ofDer? block.contents = some c ∧ ofPem mixedNamesPem = .ok attributes ∧
      attributes.sans = ["b.x", "a.x", "b.x", "10.0.0.1", "2001:db8::1", "e@x"] := by
  have hfields : ((Pem.read mixedNamesPem).toOption.filter (·.label == certificateLabel)).bind
      (fun block => (X509.ofDer? block.contents).map fun c =>
        (c.validity, c.alternativeNameValues.map generalNames?)) =
      some (⟨1735689600, 1767225600⟩, [some mixedNames]) := by
    rw [Pem.read, mixedNamesPem, Pem.toList_completeLines]
    decide +kernel
  cases hblock : Pem.read mixedNamesPem with
  | error cause =>
      rw [hblock] at hfields
      cases hfields
  | ok block =>
      rw [hblock] at hfields
      obtain ⟨found, hfound, hparts⟩ := Option.bind_eq_some_iff.mp hfields
      obtain ⟨hsame, hlabel⟩ := Option.filter_eq_some_iff.mp hfound
      obtain rfl : block = found := Option.some.inj hsame
      obtain ⟨c, hder, hread⟩ := Option.map_eq_some_iff.mp hparts
      obtain ⟨hvalidity, hnames⟩ := Prod.mk.inj hread
      obtain ⟨value, hvalue, hparsed⟩ := List.map_eq_singleton_iff.mp hnames
      obtain ⟨hdecodes, hsans⟩ := alternative_names_are_collected hblock (eq_of_beq hlabel) hder
      obtain ⟨attributes, hok⟩ := hdecodes.mpr (by rw [hvalidity]; exact ⟨by decide, by decide⟩)
      refine ⟨block, c, attributes, rfl, eq_of_beq hlabel, hder, hok, ?_⟩
      rw [(hsans attributes hok).1 value mixedNames hvalue hparsed]
      decide

end Attributes
end CertCatalog
