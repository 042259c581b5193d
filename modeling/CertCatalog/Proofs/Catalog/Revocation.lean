import CertCatalog.Proofs.Catalog.Enumeration
import CertCatalog.Proofs.Fleet.Calls
import CertCatalog.Proofs.Vault.Revocation

/-!
# Revocations across vaults

A revocation passes several gates: the token, the id, the client of the vault, the mount and the
record.  Whichever gate it fails at, nothing has changed; past the last one it has changed a single
server.  Vaults may share their clients.
-/

namespace CertCatalog.Catalog

open CertCatalog.CertificateId CertCatalog.MemoryBackend
open CertCatalog.Fleet (sampleClient sampleFleet)

/-- All clients of the catalog are served in memory; what else the fleet holds does not matter. -/
def IsServedInMemory (c : Catalog) (fleet : Fleet) : Prop :=
  ∀ vaultId name, c.client? vaultId = some name →
    ∃ v b, fleet.clients[name]? = some (Client.inMemory v b)

/-! ## The gates -/

theorem revoke_of_isAllBlank {token : String} (hblank : Text.isAllBlank token = true)
    (c : Catalog) (id : String) (fleet : Fleet) :
    c.revoke id token fleet = (.error .missingWriteToken, fleet) := by
  unfold revoke
  rw [if_pos hblank]
  rfl

theorem revoke_of_resolve_error {c : Catalog} {id token : String}
    (htoken : Text.isAllBlank token = false) {e : CatalogError} (hresolve : c.resolve id = .error e)
    (fleet : Fleet) : c.revoke id token fleet = (.error e, fleet) := by
  unfold revoke
  rw [htoken, hresolve]
  exact Action.bind_of_error rfl

theorem revoke_of_resolve {c : Catalog} {id vaultId localId token : String} {name : Nat}
    (htoken : Text.isAllBlank token = false)
    (hresolve : c.resolve id = .ok (vaultId, localId, name)) (fleet : Fleet) :
    c.revoke id token fleet = Fleet.revoke name localId token fleet := by
  unfold revoke
  rw [htoken, hresolve]
  exact Action.bind_of_ok rfl

theorem resolve_eq_ok {c : Catalog} {id vaultId localId : String} {name : Nat}
    (hresolve : c.resolve id = .ok (vaultId, localId, name)) :
    parse c.vaultIds id = .ok (vaultId, localId) ∧ c.client? vaultId = some name := by
  unfold resolve at hresolve
  cases hparse : parse c.vaultIds id with
  | error e => simp [hparse, bind, Except.bind] at hresolve
  | ok found =>
      obtain ⟨vault, rest⟩ := found
      simp only [hparse, bind, Except.bind] at hresolve
      cases hrequire : c.requireClient vault with
      | error e => simp [hrequire] at hresolve
      | ok client =>
          simp only [hrequire] at hresolve
          cases hresolve
          exact ⟨rfl, client?_of_requireClient hrequire⟩

/-- The inversion lemma: all that a revocation can do to a fleet. -/
theorem revoke_cases {c : Catalog} {fleet : Fleet} (hmemory : c.IsServedInMemory fleet)
    (id token : String) :
    (∃ vaultId localId name v b mount serial,
        parse c.vaultIds id = .ok (vaultId, localId) ∧ c.client? vaultId = some name ∧
        fleet.clients[name]? = some (Client.inMemory v b) ∧
        v.resolve localId = .ok (mount, serial) ∧
        c.revoke id token fleet = (.ok (), (fleet.record name (.revoke localId token)).setClient
          name (.inMemory v (b.withRevocation ⟨mount, serial, Text.trim token⟩)))) ∨
      ∃ e after, c.revoke id token fleet = (.error e, after) ∧ after.clients = fleet.clients := by
  cases htoken : Text.isAllBlank token with
  | true => exact .inr ⟨_, fleet, revoke_of_isAllBlank htoken c id fleet, rfl⟩
  | false =>
      cases hresolve : c.resolve id with
      | error e => exact .inr ⟨e, fleet, revoke_of_resolve_error htoken hresolve fleet, rfl⟩
      | ok target =>
          obtain ⟨vaultId, localId, name⟩ := target
          obtain ⟨hparse, hclient⟩ := resolve_eq_ok hresolve
          obtain ⟨v, b, hv⟩ := hmemory vaultId name hclient
          have hrun := (revoke_of_resolve htoken hresolve fleet).trans
            (Fleet.revoke_inMemory hv localId token)
          rcases v.revoke_cases localId token b with
            ⟨mount, serial, -, hplace, -, -, hdone⟩ | ⟨e, hfailed⟩
          · rw [hdone] at hrun
            exact .inl ⟨vaultId, localId, name, v, b, mount, serial, hparse, hclient, hv, hplace,
              hrun⟩
          · rw [hfailed] at hrun
            obtain ⟨hlt, hget⟩ := List.getElem?_eq_some_iff.mp hv
            refine .inr ⟨e, _, hrun, ?_⟩
            -- The client is put back into its place as it was.
            simp only [Fleet.setClient, Fleet.clients_record, ← hget, List.set_getElem_self]

/-! ## One record or nothing -/

/--
A revocation that succeeds has hit exactly one record: the one that the id names, on the server of
the vault that the id names, with the trimmed token.  All other clients are as they were, and so is
the cache of this one.  A revocation that fails has changed no client at all, and without a token
no client is even called.
-/
theorem revoke_one_record_or_nothing {c : Catalog} {fleet : Fleet}
    (hmemory : c.IsServedInMemory fleet) (id token : String) :
    (Text.isAllBlank token = true →
      c.revoke id token fleet = (.error .missingWriteToken, fleet)) ∧
    (∀ e after, c.revoke id token fleet = (.error e, after) →
      after.clients = fleet.clients) ∧
    ∀ after, c.revoke id token fleet = (.ok (), after) →
      ∃ vaultId localId name v b changed mount serial,
        parse c.vaultIds id = .ok (vaultId, localId) ∧ c.client? vaultId = some name ∧
        fleet.clients[name]? = some (.inMemory v b) ∧
        v.resolve localId = .ok (mount, serial) ∧
        after.clients[name]? = some (.inMemory v changed) ∧
        changed.revocations = b.revocations ++ [⟨mount, serial, Text.trim token⟩] ∧
        (∀ place, place ∈ changed.revoked ↔ place = (mount, serial) ∨ place ∈ b.revoked) ∧
        changed = { b with revoked := changed.revoked, revocations := changed.revocations } ∧
        ∀ other ≠ name, after.clients[other]? = fleet.clients[other]? ∧
          (Fleet.list other after).1 = (Fleet.list other fleet).1 := by
  refine ⟨fun hblank => revoke_of_isAllBlank hblank c id fleet, ?_, ?_⟩
  · intro e after hrun
    rcases revoke_cases hmemory id token with
      ⟨vaultId, localId, name, v, b, mount, serial, -, -, -, -, hdone⟩ | ⟨_, kept, hfailed, hkept⟩
    · rw [hdone] at hrun
      cases hrun
    · obtain ⟨-, rfl⟩ := Prod.mk.inj (hfailed.symm.trans hrun)
      exact hkept
  · intro after hrun
    rcases revoke_cases hmemory id token with
      ⟨vaultId, localId, name, v, b, mount, serial, hparse, hclient, hv, hplace, hdone⟩ |
        ⟨_, kept, hfailed, -⟩
    · obtain ⟨-, rfl⟩ := Prod.mk.inj (hdone.symm.trans hrun)
      refine ⟨vaultId, localId, name, v, b, _, mount, serial, hparse, hclient, hv, hplace,
        Fleet.clients_called_self hv _ _, rfl,
        fun _ => mem_revoked_markRevoked, rfl, fun other hother => ?_⟩
      have hframe := Fleet.clients_called_of_ne fleet hother (.revoke localId token)
        (.inMemory v (b.withRevocation ⟨mount, serial, Text.trim token⟩))
      exact ⟨hframe, Fleet.list_congr hframe rfl rfl⟩
    · rw [hfailed] at hrun
      cases hrun

theorem revoke_sample : ∃ after changed,
    sampleCatalog.revoke "west|pki:0a:1b" " s.write " sampleFleet = (.ok (), after) ∧
      after.clients[0]? = some (.inMemory sampleClient changed) ∧
      changed.revocations = [⟨"pki", "0a:1b", "s.write"⟩] := by
  have hmemory : sampleCatalog.IsServedInMemory sampleFleet := by
    intro vaultId name hclient
    obtain rfl := client?_sample hclient
    exact ⟨sampleClient, _, rfl⟩
  have hrun : sampleCatalog.revoke "west|pki:0a:1b" " s.write " sampleFleet =
      (.ok (), (sampleCatalog.revoke "west|pki:0a:1b" " s.write " sampleFleet).2) :=
    Prod.ext (by decide +kernel) rfl
  obtain ⟨vaultId, localId, name, v, b, changed, mount, serial, hparse, hclient, hv, hplace,
    hafter, hrevocations, -⟩ :=
    (revoke_one_record_or_nothing hmemory "west|pki:0a:1b" " s.write ").2.2 _ hrun
  obtain rfl := client?_sample hclient
  have hvault : parse sampleCatalog.vaultIds "west|pki:0a:1b" = .ok ("west", "pki:0a:1b") := by
    decide +kernel
  obtain ⟨rfl, rfl⟩ := Prod.mk.inj (Except.ok.inj (hvault.symm.trans hparse))
  obtain ⟨rfl, rfl⟩ := Client.inMemory.inj (Option.some.inj hv)
  have hfound : sampleClient.resolve "pki:0a:1b" = .ok ("pki", "0a:1b") := by decide +kernel
  obtain ⟨rfl, rfl⟩ := Prod.mk.inj (Except.ok.inj (hfound.symm.trans hplace))
  exact ⟨_, changed, hrun, hafter, hrevocations⟩

end CertCatalog.Catalog
