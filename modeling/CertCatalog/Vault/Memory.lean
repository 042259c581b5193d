import CertCatalog.Vault.Server

/-!
# A server in memory

A vault server whose records are held in memory and whose failures are set by commands.  It counts
the calls that read from it and remembers what it has revoked and rotated.
-/

namespace CertCatalog

structure StoredRecord where
  mount : String
  serial : String
  pem : String
  deriving DecidableEq, Repr

structure Revocation where
  mount : String
  serial : String
  token : String
  deriving DecidableEq, Repr

/-- How often each kind of reading call was made, failed calls included. -/
structure CallCounts where
  listings : Nat
  reads : Nat
  revokedListings : Nat
  deriving DecidableEq, Repr

def StoredRecord.place (r : StoredRecord) : String × String :=
  (r.mount, r.serial)

/-- The state of a server; each mount and serial has one record at most. -/
structure MemoryBackend where
  records : List StoredRecord
  places_nodup : (records.map StoredRecord.place).Nodup
  revoked : List (String × String)
  failures : List (String × CatalogError)
  health : Outcome Health
  tokenError : Option CatalogError
  crls : List (String × String)
  revocations : List Revocation
  rotations : List String
  calls : CallCounts
  deriving DecidableEq

namespace MemoryBackend

def empty : MemoryBackend :=
  { records := []
    places_nodup := .nil
    revoked := []
    failures := []
    health := .ok { initialized := true, sealed := false }
    tokenError := none
    crls := []
    revocations := []
    rotations := []
    calls := { listings := 0, reads := 0, revokedListings := 0 } }

instance : Inhabited MemoryBackend := ⟨empty⟩

/-! ## Views -/

def serialsOf (b : MemoryBackend) (mount : String) : List String :=
  ((b.records.filter (·.mount == mount)).map (·.serial)).mergeSort fun s t => !(t < s)

def pem? (b : MemoryBackend) (mount serial : String) : Option String :=
  (b.records.find? (·.place == (mount, serial))).map (·.pem)

def revokedOf (b : MemoryBackend) (mount : String) : List String :=
  (b.revoked.filter (·.1 == mount)).map (·.2)

def failure? (b : MemoryBackend) (mount : String) : Option CatalogError :=
  (b.failures.find? (·.1 == mount)).map (·.2)

def crlOf (b : MemoryBackend) (mount : String) : String :=
  ((b.crls.find? (·.1 == mount)).map (·.2)).getD ""

/-! ## Commands -/

def insert (b : MemoryBackend) (record : StoredRecord) : MemoryBackend :=
  { b with
    records := record :: b.records.filter (·.place != record.place)
    places_nodup := by
      rw [List.map_cons, List.nodup_cons]
      refine ⟨?_, b.places_nodup.sublist (List.filter_sublist.map _)⟩
      simp only [List.mem_map, not_exists, not_and]
      intro other hmem heq
      have hkeep := (List.mem_filter.mp hmem).2
      simp [heq] at hkeep }

def markRevoked (b : MemoryBackend) (mount serial : String) : MemoryBackend :=
  if b.revoked.contains (mount, serial) then b
  else { b with revoked := (mount, serial) :: b.revoked }

/-- A change of a server from outside. -/
inductive BackendCommand where
  | insert (record : StoredRecord)
  | markRevoked (mount serial : String)
  | failMount (mount : String) (error : CatalogError)
  | setHealth (health : Outcome Health)
  | rejectToken (error : CatalogError)
  | setCrl (mount crl : String)
  deriving DecidableEq

def apply (b : MemoryBackend) : BackendCommand → MemoryBackend
  | .insert record => b.insert record
  | .markRevoked mount serial => b.markRevoked mount serial
  | .failMount mount error => { b with failures := (mount, error) :: b.failures }
  | .setHealth health => { b with health := health }
  | .rejectToken error => { b with tokenError := some error }
  | .setCrl mount crl => { b with crls := (mount, crl) :: b.crls }

/-! ## Operations -/

def countListing (b : MemoryBackend) : MemoryBackend :=
  { b with calls := { b.calls with listings := b.calls.listings + 1 } }

def countRead (b : MemoryBackend) : MemoryBackend :=
  { b with calls := { b.calls with reads := b.calls.reads + 1 } }

def countRevokedListing (b : MemoryBackend) : MemoryBackend :=
  { b with calls := { b.calls with revokedListings := b.calls.revokedListings + 1 } }

def answerOf {α : Type} (b : MemoryBackend) (mount : String) (value : α) : Outcome α :=
  match b.failure? mount with
  | some error => .error error
  | none => .ok value

def revoke (b : MemoryBackend) (mount serial token : String) : Outcome Unit × MemoryBackend :=
  match b.failure? mount with
  | some error => (.error error, b)
  | none =>
      if (b.pem? mount serial).isSome then
        let marked := b.markRevoked mount serial
        (.ok (), { marked with
          revocations :=
            marked.revocations ++ [{ mount := mount, serial := serial, token := token }] })
      else (.error (.notFound mount serial), b)

def rotateCrl (b : MemoryBackend) (mount : String) : Outcome Unit × MemoryBackend :=
  match b.failure? mount with
  | some error => (.error error, b)
  | none => (.ok (), { b with rotations := b.rotations ++ [mount] })

def server : Server MemoryBackend where
  listSerials mount b := (b.answerOf mount (b.serialsOf mount), b.countListing)
  listRevoked mount b := (b.answerOf mount (b.revokedOf mount), b.countRevokedListing)
  readRecord mount serial b := (b.answerOf mount (b.pem? mount serial), b.countRead)
  revoke mount serial token b := b.revoke mount serial token
  health b := (b.health, b)
  checkToken b :=
    (match b.tokenError with
    | some error => .error error
    | none => .ok (), b)
  readCrl mount b := (b.answerOf mount (b.crlOf mount), b)
  rotateCrl mount b := b.rotateCrl mount

end MemoryBackend
end CertCatalog
