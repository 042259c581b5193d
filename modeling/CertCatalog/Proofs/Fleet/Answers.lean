import CertCatalog.Proofs.Cache
import CertCatalog.Proofs.Fleet.Calls

/-!
# Answers that last

A client without a network gives the same listing again as long as no listing expires that it has
cached: what it reads anew has not changed, and what it has kept is what it has read.  Calls of
other clients, time and sweeps do not interfere.
-/

namespace CertCatalog

open CertCatalog.MemoryBackend

/-! ## Clients in memory -/

namespace VaultClient

/-- What a listing says at some time: what is cached, else what the server holds. -/
def answerAt (v : VaultClient) (b : MemoryBackend) (time : Nat) : Outcome (List Certificate) :=
  match v.cached? time with
  | some certificates => .ok certificates
  | none => b.listing v.mounts

/-- The listing says the same at all times from `now` until `last`. -/
def KeepsAnswer (v : VaultClient) (b : MemoryBackend) (answer : Outcome (List Certificate))
    (now last : Nat) : Prop :=
  ∀ time, now ≤ time → time ≤ last → v.answerAt b time = answer

theorem cached?_eq_none_of_later {v : VaultClient} {now later : Nat} (hle : now ≤ later)
    (hnone : v.cached? now = none) : v.cached? later = none := by
  cases hlater : v.cached? later with
  | none => rfl
  | some certificates =>
      have hnow : v.cached? now = some certificates := TtlCache.get?_of_later hle hlater
      rw [hnone] at hnow
      contradiction

theorem keepsAnswer_of_cached {v : VaultClient} {now last : Nat}
    (hlasts : ∀ certificates, v.cached? now = some certificates →
      v.cached? last = some certificates) (b : MemoryBackend) :
    v.KeepsAnswer b (v.answerAt b now) now last := by
  intro time hfirst hlast
  unfold answerAt
  cases hnow : v.cached? now with
  | none => rw [cached?_eq_none_of_later hfirst hnow]
  | some certificates =>
      have htime : v.cached? time = some certificates :=
        TtlCache.get?_of_later hlast (hlasts certificates hnow)
      rw [htime]

theorem KeepsAnswer.mono {v : VaultClient} {b : MemoryBackend}
    {answer : Outcome (List Certificate)} {now later last : Nat}
    (h : v.KeepsAnswer b answer now last) (hle : now ≤ later) :
    v.KeepsAnswer b answer later last :=
  fun time hfirst hlast => h time (Nat.le_trans hle hfirst) hlast

theorem KeepsAnswer.sweep {v : VaultClient} {b : MemoryBackend}
    {answer : Outcome (List Certificate)} {now last : Nat} (h : v.KeepsAnswer b answer now last)
    {time : Nat} (hle : time ≤ now) : (v.sweep time).KeepsAnswer b answer now last := by
  intro later hfirst hlast
  have hcached : (v.sweep time).cached? later = v.cached? later :=
    TtlCache.get?_cleanup_of_le v.cache listingKey (Nat.le_trans hle hfirst)
  rw [← h later hfirst hlast, answerAt, answerAt, hcached]
  rfl

/-- The step lemma: a listing gives the answer and leaves a client that gives it again. -/
theorem KeepsAnswer.list {v : VaultClient} {b : MemoryBackend}
    {answer : Outcome (List Certificate)} {now last : Nat} (h : v.KeepsAnswer b answer now last)
    (hle : now ≤ last) :
    ∃ w after, VaultClient.list server now (v, b) = (answer, w, after) ∧
      w.KeepsAnswer after answer now last := by
  have hanswer := h now (Nat.le_refl now) hle
  unfold answerAt at hanswer
  unfold VaultClient.list
  cases hcached : v.cached? now with
  | some certificates =>
      rw [hcached] at hanswer
      exact ⟨v, b, by simp only [hcached, ← hanswer], h⟩
  | none =>
      rw [hcached] at hanswer
      obtain ⟨hlisting, hsame⟩ := freshListing_apply b v.mounts
      simp only [hcached]
      cases hfresh : freshListing server v.mounts b with
      | mk outcome after =>
          rw [hfresh] at hlisting hsame
          -- The server still holds what was read, so a later reading gives the answer as well.
          have hagain : after.listing v.mounts = answer := by
            rw [← hsame.listing_eq, ← hanswer]
          obtain rfl : outcome = answer := hlisting.trans hanswer
          cases outcome with
          | error e =>
              refine ⟨v, after, rfl, fun time hfirst hlast => ?_⟩
              rw [answerAt, cached?_eq_none_of_later hfirst hcached]
              exact hagain
          | ok certificates =>
              refine ⟨v.keep certificates now, after, rfl, fun time hfirst hlast => ?_⟩
              rw [answerAt, cached?_keep_self]
              by_cases hexpired : now + v.cache.ttl ≤ time
              · rw [if_pos hexpired]
                exact hagain
              · rw [if_neg hexpired]

end VaultClient

/-! ## Clients of all kinds -/

namespace Client

def KeepsAnswer (answer : Outcome (List Certificate)) (now last : Nat) : Client → Prop
  | .disabled => answer = .ok []
  | .scripted script => answer = script.list
  | .inMemory v b => v.KeepsAnswer b answer now last
  | .remote _ _ => False

theorem KeepsAnswer.run {c : Client} {answer : Outcome (List Certificate)} {now last : Nat}
    (h : c.KeepsAnswer answer now last) (hle : now ≤ last) (net : Http.Network) :
    ∃ changed, Client.run now (fun source => source.list) (c, net) = (answer, changed, net) ∧
      changed.KeepsAnswer answer now last := by
  cases c with
  | disabled =>
      obtain rfl := h
      exact ⟨.disabled, rfl, rfl⟩
  | scripted script =>
      obtain rfl := h
      exact ⟨.scripted script, rfl, rfl⟩
  | inMemory v b =>
      obtain ⟨w, after, hrun, hkept⟩ := VaultClient.KeepsAnswer.list h hle
      have hsource : (VaultClient.source server now).list (v, b) = (answer, w, after) := hrun
      refine ⟨.inMemory w after, ?_, hkept⟩
      simp only [Client.run, hsource]
  | remote v r => exact h.elim

theorem KeepsAnswer.mono {c : Client} {answer : Outcome (List Certificate)} {now later last : Nat}
    (h : c.KeepsAnswer answer now last) (hle : now ≤ later) :
    c.KeepsAnswer answer later last := by
  cases c with
  | disabled => exact h
  | scripted script => exact h
  | inMemory v b => exact VaultClient.KeepsAnswer.mono h hle
  | remote v r => exact h

theorem KeepsAnswer.sweep {c : Client} {answer : Outcome (List Certificate)} {now last : Nat}
    (h : c.KeepsAnswer answer now last) {time : Nat} (hle : time ≤ now) :
    (c.mapVault fun v => v.sweep time).KeepsAnswer answer now last := by
  cases c with
  | disabled => exact h
  | scripted script => exact h
  | inMemory v b => exact VaultClient.KeepsAnswer.sweep h hle
  | remote v r => exact h

end Client

/-! ## Fleets -/

namespace Fleet

theorem wallAt_mono (clock : Clock) {timer later : Nat} (hle : timer ≤ later) :
    clock.wallAt timer ≤ clock.wallAt later := by
  unfold Clock.wallAt
  cases clock.wallMoves with
  | false => exact Nat.le_refl _
  | true =>
      simp only [if_true]
      omega

theorem wall_le_wallAt (clock : Clock) (timer : Nat) : clock.wall ≤ clock.wallAt timer := by
  unfold Clock.wallAt
  cases clock.wallMoves with
  | false => exact Nat.le_refl _
  | true => exact Nat.le_add_right _ _

def KeepsAnswer (fleet : Fleet) (last name : Nat) (answer : Outcome (List Certificate)) : Prop :=
  match fleet.clients[name]? with
  | some c => c.KeepsAnswer answer fleet.clock.wall last
  | none => answer = .error .notConfigured

theorem KeepsAnswer.advance {fleet : Fleet} {last name : Nat}
    {answer : Outcome (List Certificate)} (h : fleet.KeepsAnswer last name answer)
    (millis : Nat) : (fleet.advance millis).KeepsAnswer last name answer := by
  unfold KeepsAnswer at h ⊢
  simp only [Fleet.advance, List.getElem?_map]
  cases hclient : fleet.clients[name]? with
  | none =>
      rw [hclient] at h
      exact h
  | some c =>
      rw [hclient] at h
      have hlater := Client.KeepsAnswer.mono h
        (wall_le_wallAt fleet.clock (fleet.clock.timer + millis))
      simp only [Option.map_some, sweepUntil]
      split
      · next time hsweep =>
          obtain ⟨v, -, hlast⟩ := Option.bind_eq_some_iff.mp hsweep
          exact hlater.sweep (wallAt_mono fleet.clock (VaultClient.le_of_lastSweep? hlast))
      · exact hlater

theorem KeepsAnswer.listNow_eq {fleet : Fleet} {last name : Nat}
    {answer : Outcome (List Certificate)} (h : fleet.KeepsAnswer last name answer)
    (hle : fleet.clock.wall ≤ last) :
    (listNow name fleet).1 = answer ∧ (listNow name fleet).2.network = fleet.network ∧
      (listNow name fleet).2.KeepsAnswer last name answer := by
  unfold KeepsAnswer at h
  cases hclient : fleet.clients[name]? with
  | none =>
      rw [hclient] at h
      rw [listNow, call_of_missing hclient]
      refine ⟨h.symm, rfl, ?_⟩
      simp only [KeepsAnswer, clients_record, hclient]
      exact h
  | some c =>
      rw [hclient] at h
      obtain ⟨changed, hrun, hkept⟩ := Client.KeepsAnswer.run h hle fleet.network
      rw [listNow, call_of_client hclient, hrun]
      refine ⟨rfl, rfl, ?_⟩
      have hself := clients_called_self hclient .list changed
      simp only [KeepsAnswer]
      rw [hself]
      exact hkept

theorem clock_listNow (name : Nat) (fleet : Fleet) :
    (listNow name fleet).2.clock = fleet.clock :=
  (isSingleCall_call name .list (fun source => source.list) fleet).clock_eq

theorem clients_listNow_of_ne (fleet : Fleet) {name other : Nat} (hne : other ≠ name) :
    (listNow name fleet).2.clients[other]? = fleet.clients[other]? :=
  ((isSingleCall_call name .list (fun source => source.list) fleet).others other hne).client_eq

/-- The answer of a client lasts through a listing of any client, its own included. -/
theorem KeepsAnswer.listNow {fleet : Fleet} {last other : Nat}
    {answer : Outcome (List Certificate)} (h : fleet.KeepsAnswer last other answer)
    (hle : fleet.clock.wall ≤ last) (name : Nat) :
    (Fleet.listNow name fleet).2.KeepsAnswer last other answer := by
  by_cases hname : other = name
  · subst hname
    exact (h.listNow_eq hle).2.2
  · unfold KeepsAnswer at h ⊢
    rw [clients_listNow_of_ne fleet hname, clock_listNow]
    exact h

theorem KeepsAnswer.list_eq {fleet : Fleet} {last name : Nat}
    {answer : Outcome (List Certificate)} (h : fleet.KeepsAnswer last name answer)
    (hle : fleet.clock.wall ≤ last) : (list name fleet).1 = answer :=
  (h.listNow_eq hle).1

theorem KeepsAnswer.list {fleet : Fleet} {last other : Nat}
    {answer : Outcome (List Certificate)} (h : fleet.KeepsAnswer last other answer)
    (hle : fleet.clock.wall ≤ last) (name : Nat) :
    (Fleet.list name fleet).2.KeepsAnswer last other answer :=
  (h.listNow hle name).advance (fleet.listDelay name)

theorem wall_le_list (name : Nat) (fleet : Fleet) :
    fleet.clock.wall ≤ (list name fleet).2.clock.wall := by
  have hclock := clock_listNow name fleet
  have hlater : ((listNow name fleet).2.advance (fleet.listDelay name)).clock.wall =
      (listNow name fleet).2.clock.wallAt
        ((listNow name fleet).2.clock.timer + fleet.listDelay name) := rfl
  have hle := wall_le_wallAt fleet.clock (fleet.clock.timer + fleet.listDelay name)
  rw [← hclock, ← hlater] at hle
  exact hclock ▸ hle

end Fleet
end CertCatalog
