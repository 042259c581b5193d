import CertCatalog.Vault.Memory

/-!
# What a server in memory holds

Reading calls change nothing but the call counts, and what they answer depends on three parts of
the state only: the records, the revoked places and the failing mounts.
-/

namespace CertCatalog.MemoryBackend

/-! ## Contents -/

/-- Both states hold the same records, revocations and failures; everything else may differ. -/
structure SameContents (b other : MemoryBackend) : Prop where
  records : b.records = other.records
  revoked : b.revoked = other.revoked
  failures : b.failures = other.failures

namespace SameContents

variable {a b c : MemoryBackend}

theorem refl (b : MemoryBackend) : SameContents b b :=
  ⟨rfl, rfl, rfl⟩

theorem trans (hab : SameContents a b) (hbc : SameContents b c) : SameContents a c :=
  ⟨hab.records.trans hbc.records, hab.revoked.trans hbc.revoked, hab.failures.trans hbc.failures⟩

theorem serialsOf_eq (h : SameContents a b) (mount : String) :
    a.serialsOf mount = b.serialsOf mount := by
  simp only [serialsOf, h.records]

theorem pem?_eq (h : SameContents a b) (mount serial : String) :
    a.pem? mount serial = b.pem? mount serial := by
  simp only [pem?, h.records]

theorem revokedOf_eq (h : SameContents a b) (mount : String) :
    a.revokedOf mount = b.revokedOf mount := by
  simp only [revokedOf, h.revoked]

theorem failure?_eq (h : SameContents a b) (mount : String) :
    a.failure? mount = b.failure? mount := by
  simp only [failure?, h.failures]

theorem countListing (b : MemoryBackend) : SameContents b b.countListing :=
  ⟨rfl, rfl, rfl⟩

theorem countRead (b : MemoryBackend) : SameContents b b.countRead :=
  ⟨rfl, rfl, rfl⟩

theorem countRevokedListing (b : MemoryBackend) : SameContents b b.countRevokedListing :=
  ⟨rfl, rfl, rfl⟩

end SameContents

/-! ## Reading calls -/

theorem listSerials_apply (b : MemoryBackend) (mount : String) :
    server.listSerials mount b = (b.answerOf mount (b.serialsOf mount), b.countListing) := rfl

theorem listRevoked_apply (b : MemoryBackend) (mount : String) :
    server.listRevoked mount b = (b.answerOf mount (b.revokedOf mount), b.countRevokedListing) :=
  rfl

theorem readRecord_apply (b : MemoryBackend) (mount serial : String) :
    server.readRecord mount serial b =
      (b.answerOf mount (b.pem? mount serial), b.countRead) := rfl

/-! ## Records -/

theorem exists_record_of_mem_serialsOf {b : MemoryBackend} {mount serial : String}
    (hmem : serial ∈ b.serialsOf mount) :
    ∃ record ∈ b.records, record.mount = mount ∧ record.serial = serial := by
  simp only [serialsOf, List.mem_mergeSort, List.mem_map, List.mem_filter, beq_iff_eq] at hmem
  obtain ⟨record, ⟨hrecord, hmount⟩, hserial⟩ := hmem
  exact ⟨record, hrecord, hmount, hserial⟩

/-! ## Revoking -/

@[simp] theorem mem_revoked_markRevoked {b : MemoryBackend} {mount serial : String}
    {place : String × String} :
    place ∈ (b.markRevoked mount serial).revoked ↔ place = (mount, serial) ∨ place ∈ b.revoked := by
  unfold markRevoked
  split
  · next hknown =>
      constructor
      · exact Or.inr
      · rintro (rfl | hplace)
        · simpa using hknown
        · exact hplace
  · simp

def withRevocation (b : MemoryBackend) (r : Revocation) : MemoryBackend :=
  { b with
    revoked := (b.markRevoked r.mount r.serial).revoked
    revocations := b.revocations ++ [r] }

/-- A revocation either is carried out for a known record of a working mount or changes nothing. -/
theorem revoke_cases (b : MemoryBackend) (mount serial token : String) :
    (b.failure? mount = none ∧ (b.pem? mount serial).isSome ∧
        b.revoke mount serial token = (.ok (), b.withRevocation ⟨mount, serial, token⟩)) ∨
      ∃ e, b.revoke mount serial token = (.error e, b) := by
  unfold revoke
  cases hfailure : b.failure? mount with
  | some e => exact .inr ⟨e, rfl⟩
  | none =>
      by_cases hknown : (b.pem? mount serial).isSome
      · refine .inl ⟨rfl, hknown, ?_⟩
        simp only [hknown, if_true, withRevocation]
        unfold markRevoked
        split <;> rfl
      · exact .inr ⟨.notFound mount serial, by simp [hknown]⟩

end CertCatalog.MemoryBackend
