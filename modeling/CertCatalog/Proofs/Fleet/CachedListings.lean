import CertCatalog.Proofs.Fleet.Answers

/-!
# Cached listings in a fleet

A client that has a listing in its cache gives it again without its server.  The listing gets there
when it is made, and it stays there as long as no time passes.
-/

namespace CertCatalog

/-! ## One client -/

/-- A listing that succeeds is in the cache afterwards, if the cache keeps anything at all. -/
theorem VaultClient.cached?_of_list {σ : Type} {server : Server σ} {v : VaultClient} {now : Nat}
    {s : σ} {certificates : List Certificate} (httl : 0 < v.cache.ttl)
    (hok : (list server now (v, s)).1 = .ok certificates) :
    (list server now (v, s)).2.1.cached? now = some certificates := by
  unfold VaultClient.list at hok ⊢
  cases hcached : v.cached? now with
  | some kept =>
      simp only [hcached] at hok ⊢
      cases hok
      rfl
  | none =>
      simp only [hcached] at hok ⊢
      cases hfresh : freshListing server v.mounts s with
      | mk outcome after =>
          rw [hfresh] at hok
          cases outcome with
          | error e => cases hok
          | ok fresh =>
              cases hok
              simp only [cached?_keep_self]
              exact if_neg (by omega)

namespace Client

variable {c : Client} {v : VaultClient} {now : Nat} {certificates : List Certificate}

theorem listDelay_of_vault? (hvault : c.vault? = some v) : c.listDelay = 0 := by
  cases c with
  | scripted script => cases hvault
  | disabled | inMemory _ _ | remote _ _ => rfl

theorem run_list_of_cached (hvault : c.vault? = some v)
    (hcached : v.cached? now = some certificates) (net : Http.Network) :
    run now (fun source => source.list) (c, net) = (.ok certificates, c, net) := by
  cases c with
  | disabled => cases hvault
  | scripted script => cases hvault
  | inMemory w b =>
      cases hvault
      simp only [run, VaultClient.source, VaultClient.list, hcached]
  | remote w server =>
      cases hvault
      simp only [run, VaultClient.source, VaultClient.list, hcached]

theorem cached?_of_run_list (hvault : c.vault? = some v) (httl : 0 < v.cache.ttl)
    {net : Http.Network}
    (hok : (run now (fun source => source.list) (c, net)).1 = .ok certificates) :
    ∃ w, (run now (fun source => source.list) (c, net)).2.1.vault? = some w ∧
      w.cached? now = some certificates := by
  cases c with
  | disabled => cases hvault
  | scripted script => cases hvault
  | inMemory w b =>
      cases hvault
      exact ⟨_, rfl, VaultClient.cached?_of_list httl hok⟩
  | remote w server =>
      cases hvault
      exact ⟨_, rfl, VaultClient.cached?_of_list httl hok⟩

end Client

/-! ## Fleets -/

namespace Fleet

def cached? (fleet : Fleet) (name : Nat) : Option (List Certificate) :=
  (fleet.clients[name]?.bind Client.vault?).bind fun v => v.cached? fleet.clock.wall

variable {fleet : Fleet} {name : Nat} {certificates : List Certificate}

theorem cached?_eq_some_iff : fleet.cached? name = some certificates ↔
    ∃ c v, fleet.clients[name]? = some c ∧ c.vault? = some v ∧
      v.cached? fleet.clock.wall = some certificates := by
  simp only [cached?, Option.bind_eq_some_iff]
  constructor
  · rintro ⟨v, ⟨c, hclient, hvault⟩, hcached⟩
    exact ⟨c, v, hclient, hvault, hcached⟩
  · rintro ⟨c, v, hclient, hvault, hcached⟩
    exact ⟨v, ⟨c, hclient, hvault⟩, hcached⟩

theorem list_of_listDelay (hdelay : fleet.listDelay name = 0) :
    list name fleet = listNow name fleet := by
  simp only [list, hdelay, advance_zero]

theorem listDelay_of_vault? {c : Client} {v : VaultClient}
    (hclient : fleet.clients[name]? = some c) (hvault : c.vault? = some v) :
    fleet.listDelay name = 0 := by
  rw [listDelay, hclient, Option.map_some, Client.listDelay_of_vault? hvault, Option.getD_some]

theorem list_of_cached (hcached : fleet.cached? name = some certificates) :
    list name fleet = (.ok certificates, fleet.record name .list) := by
  obtain ⟨c, v, hclient, hvault, hkept⟩ := cached?_eq_some_iff.mp hcached
  have hrun := Client.run_list_of_cached hvault hkept fleet.network
  rw [list_of_listDelay (listDelay_of_vault? hclient hvault), listNow, call_of_client hclient,
    hrun, setClient_self hclient]
  rfl

theorem listWithin_of_cached (hcached : fleet.cached? name = some certificates) (deadline : Nat) :
    listWithin deadline name fleet = (some (.ok certificates), fleet.record name .list) ∧
      fleet.timeTaken (fleet.record name .list) name = 0 := by
  obtain ⟨c, v, hclient, hvault, -⟩ := cached?_eq_some_iff.mp hcached
  have hdelay := listDelay_of_vault? hclient hvault
  have hnow := (list_of_listDelay hdelay).symm.trans (list_of_cached hcached)
  have htime : fleet.timeTaken (fleet.record name .list) name = 0 := by
    rw [timeTaken, hdelay, Nat.zero_add]
    exact Nat.sub_self _
  refine ⟨?_, htime⟩
  simp only [listWithin, hnow, htime, Nat.not_lt_zero, if_false]

theorem cached?_of_list {c : Client} {v : VaultClient} (hclient : fleet.clients[name]? = some c)
    (hvault : c.vault? = some v) (httl : 0 < v.cache.ttl)
    (hok : (list name fleet).1 = .ok certificates) :
    (list name fleet).2.cached? name = some certificates := by
  rw [list_of_listDelay (listDelay_of_vault? hclient hvault)] at hok ⊢
  rw [listNow, call_of_client hclient] at hok ⊢
  obtain ⟨w, hchanged, hkept⟩ := Client.cached?_of_run_list hvault httl hok
  exact cached?_eq_some_iff.mpr
    ⟨_, w, clients_called_self hclient .list _, hchanged, hkept⟩

theorem cached?_list (hcached : fleet.cached? name = some certificates) {other : Nat}
    (hdelay : fleet.listDelay other = 0) :
    (list other fleet).2.cached? name = some certificates := by
  by_cases hname : name = other
  · subst hname
    rw [list_of_cached hcached]
    exact hcached
  · rw [list_of_listDelay hdelay, cached?, clients_listNow_of_ne fleet hname, clock_listNow]
    exact hcached

theorem cacheSize_pos (hcached : fleet.cached? name = some certificates) :
    0 < fleet.cacheSize name := by
  obtain ⟨c, v, hclient, hvault, hkept⟩ := cached?_eq_some_iff.mp hcached
  obtain ⟨entry, hentry, -⟩ := TtlCache.get?_eq_some_iff.mp hkept
  have hsize : 0 < v.cacheSize :=
    List.length_pos_of_mem (Table.get?_eq_some_iff.mp hentry)
  rw [cacheSize, hclient, Option.map_some, Option.getD_some]
  cases c with
  | disabled => cases hvault
  | scripted script => cases hvault
  | inMemory w b =>
      cases hvault
      exact hsize
  | remote w server =>
      cases hvault
      exact hsize

end Fleet
end CertCatalog
