import CertCatalog.Proofs.Catalog.Listing
import CertCatalog.Proofs.Fleet.Answers

/-!
# Listings of steady vaults

Vaults whose clients use no network, and whose cached listings do not expire in the meantime, answer
in the course of a listing as they answer at its beginning.  The order in which they are asked makes
no difference then: certificates of different vaults have different ids, so that sorting leaves one
order only.
-/

namespace CertCatalog.Catalog

open CertCatalog.CertificateId

/-! ## Steady vaults -/

/-- No vault is served over a network, and no listing that is cached now expires until `last`. -/
structure IsSteady (c : Catalog) (fleet : Fleet) (last : Nat) : Prop where
  not_remote : ∀ vaultId ∈ c.vaultIds, ∀ name, c.client? vaultId = some name →
    ∀ v r, fleet.clients[name]? ≠ some (Client.remote v r)
  cached_lasts : ∀ vaultId ∈ c.vaultIds, ∀ name, c.client? vaultId = some name →
    ∀ v b, fleet.clients[name]? = some (Client.inMemory v b) →
      ∀ certificates, v.cached? fleet.clock.wall = some certificates →
        v.cached? last = some certificates

theorem IsSteady.keepsAnswer {c : Catalog} {fleet : Fleet} {last : Nat}
    (h : c.IsSteady fleet last) (hle : fleet.clock.wall ≤ last) {vaultId : String}
    (hvault : vaultId ∈ c.vaultIds) {name : Nat} (hclient : c.client? vaultId = some name) :
    fleet.KeepsAnswer last name (Fleet.list name fleet).1 := by
  have hsome : ∃ answer, fleet.KeepsAnswer last name answer := by
    unfold Fleet.KeepsAnswer
    cases hfound : fleet.clients[name]? with
    | none => exact ⟨_, rfl⟩
    | some served =>
        cases served with
        | disabled => exact ⟨_, rfl⟩
        | scripted script => exact ⟨_, rfl⟩
        | inMemory v b =>
            have hlasts := h.cached_lasts vaultId hvault name hclient v b hfound
            exact ⟨_, VaultClient.keepsAnswer_of_cached hlasts b⟩
        | remote v r => exact absurd hfound (h.not_remote vaultId hvault name hclient v r)
  obtain ⟨answer, hanswer⟩ := hsome
  rw [hanswer.list_eq hle]
  exact hanswer

theorem isSteady_of_uncached (c : Catalog) {fleet : Fleet} (last : Nat)
    (hlocal : ∀ v r, Client.remote v r ∉ fleet.clients)
    (huncached : ∀ v b, Client.inMemory v b ∈ fleet.clients → v.cached? fleet.clock.wall = none) :
    c.IsSteady fleet last where
  not_remote _ _ _ _ v r hfound := hlocal v r (List.mem_of_getElem? hfound)
  cached_lasts _ _ _ _ v b hfound certificates hcached := by
    rw [huncached v b (List.mem_of_getElem? hfound)] at hcached
    contradiction

/-! ## What the vaults answer -/

theorem wall_le_ask (c : Catalog) (vaultId : String) (fleet : Fleet) :
    fleet.clock.wall ≤ (c.ask vaultId fleet).2.clock.wall := by
  unfold ask
  cases c.client? vaultId with
  | none => exact Nat.le_refl _
  | some name => exact Fleet.wall_le_list name fleet

/-- The run lemma: each vault answers what it answers at first. -/
theorem attemptAll_ask {c : Catalog} {fleet : Fleet} {last : Nat} {vaultIds : List String}
    {s : Fleet}
    (hkept : ∀ vaultId ∈ vaultIds, ∀ name, c.client? vaultId = some name →
      s.KeepsAnswer last name (Fleet.list name fleet).1)
    (hlast : (Action.attemptAll c.ask vaultIds s).2.clock.wall ≤ last) :
    (Action.attemptAll c.ask vaultIds s).1 =
      vaultIds.map fun vaultId => (c.ask vaultId fleet).1 := by
  induction vaultIds generalizing s with
  | nil => rfl
  | cons vaultId rest ih =>
      have hstart : s.clock.wall ≤ last :=
        Nat.le_trans (Action.attemptAll_mono (·.clock.wall) c.wall_le_ask (vaultId :: rest) s) hlast
      have hanswer : (c.ask vaultId s).1 = (c.ask vaultId fleet).1 := by
        unfold ask
        cases hclient : c.client? vaultId with
        | none => rfl
        | some name => exact (hkept vaultId (by simp) name hclient).list_eq hstart
      have hnext : ∀ other ∈ rest, ∀ name, c.client? other = some name →
          (c.ask vaultId s).2.KeepsAnswer last name (Fleet.list name fleet).1 := by
        intro other hother name hname
        have hold := hkept other (by simp [hother]) name hname
        unfold ask
        cases c.client? vaultId with
        | none => exact hold
        | some called => exact hold.list hstart called
      have hrest := ih hnext hlast
      simp only [Action.attemptAll, hanswer, hrest, List.map_cons]

theorem wall_le_list (c : Catalog) (fleet : Fleet) :
    fleet.clock.wall ≤ (c.list fleet).2.clock.wall := by
  by_cases hne : c.vaultIds = []
  · simp [list_apply, hne]
  · rw [list_eq_joinListings hne]
    exact Action.attemptAll_mono (·.clock.wall) c.wall_le_ask c.vaultIds fleet

theorem answers_of_isSteady {c : Catalog} {fleet : Fleet}
    (h : c.IsSteady fleet (c.list fleet).2.clock.wall) :
    c.answers fleet = c.vaultIds.map fun vaultId => (vaultId, (c.ask vaultId fleet).1) := by
  by_cases hne : c.vaultIds = []
  · simp [answers, hne]
  · have hafter : (c.list fleet).2 = (Action.attemptAll c.ask c.vaultIds fleet).2 :=
      congrArg Prod.snd (list_eq_joinListings hne fleet)
    have hrun := attemptAll_ask
      (fun vaultId hvault name hclient => h.keepsAnswer (c.wall_le_list fleet) hvault hclient)
      (hafter ▸ Nat.le_refl _)
    rw [answers, hrun]
    exact List.map_prod_left_eq_zip.symm

/-! ## The order of the vaults -/

theorem nodup_map_compose {vaultId : String} (haddressable : isAddressable vaultId = true)
    {localIds : List String} (hnodup : localIds.Nodup) :
    (localIds.map (compose vaultId)).Nodup :=
  hnodup.map fun _ _ heq => (compose_inj haddressable haddressable heq).2

def AreIdsOf (vaultId : String) (ids : List String) : Prop :=
  ∃ localIds : List String, localIds.Nodup ∧ ids = localIds.map (compose vaultId)

theorem nodup_flatten_of_areIdsOf {vaultIds : List String} (hvaults : vaultIds.Nodup)
    (haddressable : ∀ vaultId ∈ vaultIds, isAddressable vaultId = true)
    {ids : List (List String)} (hids : List.Forall₂ AreIdsOf vaultIds ids) :
    ids.flatten.Nodup := by
  induction hids with
  | nil => exact List.nodup_nil
  | @cons vaultId first vaultIds rest hfirst hrest ih =>
      obtain ⟨hfresh, hothers⟩ := List.nodup_cons.mp hvaults
      obtain ⟨localIds, hdistinct, rfl⟩ := hfirst
      have hvault : isAddressable vaultId = true := haddressable vaultId (by simp)
      rw [List.flatten_cons, List.nodup_append]
      refine ⟨nodup_map_compose hvault hdistinct,
        ih hothers fun other hother => haddressable other (by simp [hother]), ?_⟩
      -- An id of this vault and one of a later vault have different texts before the bar.
      rintro _ hleft _ hright rfl
      obtain ⟨localId, -, hlocal⟩ := List.mem_map.mp hleft
      obtain ⟨listed, hlisted, hmem⟩ := List.mem_flatten.mp hright
      obtain ⟨other, hother, otherIds, -, rfl⟩ := Action.exists_item_of_mem hrest hlisted
      obtain ⟨otherId, -, hcompose⟩ := List.mem_map.mp hmem
      have hsame := compose_inj hvault (haddressable other (by simp [hother]))
        (hlocal.trans hcompose.symm)
      exact hfresh (hsame.1 ▸ hother)

theorem nodup_ids_allShown {answers : List (String × Outcome (List Certificate))}
    (hvaults : (answers.map Prod.fst).Nodup)
    (haddressable : ∀ answer ∈ answers, isAddressable answer.1 = true)
    (hdistinct : ∀ answer ∈ answers, ∀ certificates, answer.2 = .ok certificates →
      (certificates.map (·.id)).Nodup) :
    ((allShown answers).map (·.id)).Nodup := by
  have hids : (allShown answers).map (·.id) =
      (answers.map fun answer => (allShown [answer]).map (·.id)).flatten := by
    rw [allShown, List.map_flatMap, List.flatMap_def]
    congr 2
    funext answer
    rw [allShown, List.flatMap_singleton]
  rw [hids]
  refine nodup_flatten_of_areIdsOf hvaults (by simpa using haddressable) ?_
  rw [List.forall₂_map_left_iff, List.forall₂_map_right_iff, List.forall₂_same]
  rintro ⟨vaultId, outcome⟩ hanswer
  cases outcome with
  | error e => exact ⟨[], List.nodup_nil, rfl⟩
  | ok certificates =>
      refine ⟨certificates.map (·.id), hdistinct _ hanswer certificates rfl, ?_⟩
      rw [allShown, List.flatMap_singleton, List.map_map, List.map_map]
      rfl

theorem nodup_ids_answers {c : Catalog} {wanted : List String} {clients : Table (Option Nat)}
    (hc : c = ofClients wanted clients) {fleet : Fleet}
    (hsteady : c.IsSteady fleet (c.list fleet).2.clock.wall)
    (hdistinct : ∀ vaultId ∈ c.vaultIds, ∀ name, c.client? vaultId = some name →
      ∀ certificates, (Fleet.list name fleet).1 = .ok certificates →
        (certificates.map (·.id)).Nodup) :
    ((allShown (c.answers fleet)).map (·.id)).Nodup := by
  apply nodup_ids_allShown
  · rw [vaultIds_answers, hc]
    exact nodup_vaultIds wanted clients
  · intro answer hanswer
    have hvault : answer.1 ∈ c.vaultIds :=
      c.vaultIds_answers fleet ▸ List.mem_map_of_mem hanswer
    exact isAddressable_of_mem_vaultIds (hc ▸ hvault)
  · intro answer hanswer certificates hok
    rw [answers_of_isSteady hsteady] at hanswer
    obtain ⟨vaultId, hvault, rfl⟩ := List.mem_map.mp hanswer
    dsimp only [ask] at hok
    split at hok
    · next name hclient => exact hdistinct vaultId hvault name hclient certificates hok
    · contradiction

theorem answers_perm {c d : Catalog} (hids : c.vaultIds.Perm d.vaultIds)
    (hclients : c.clients = d.clients) {fleet : Fleet}
    (hfirst : c.IsSteady fleet (c.list fleet).2.clock.wall)
    (hsecond : d.IsSteady fleet (d.list fleet).2.clock.wall) :
    (c.answers fleet).Perm (d.answers fleet) := by
  have hask : c.ask = d.ask := by
    unfold ask client?
    rw [hclients]
  rw [answers_of_isSteady hfirst, answers_of_isSteady hsecond, hask]
  exact hids.map _

theorem exists_error_of_perm {c d : Catalog} (hne : c.vaultIds ≠ []) (hother : d.vaultIds ≠ [])
    {fleet : Fleet} (hperm : (c.answers fleet).Perm (d.answers fleet))
    (hfailed : ∃ e, (c.list fleet).1 = .error e) : ∃ e, (d.list fleet).1 = .error e := by
  have hall := (exists_error_iff hne fleet).mp hfailed
  exact (exists_error_iff hother fleet).mpr fun answer hanswer =>
    hall answer (hperm.mem_iff.mpr hanswer)

theorem list_eq_of_perm {c d : Catalog} (hne : c.vaultIds ≠ []) (hother : d.vaultIds ≠ [])
    {fleet : Fleet} (hperm : (c.answers fleet).Perm (d.answers fleet))
    (hnodup : ((allShown (c.answers fleet)).map (·.id)).Nodup) {certificates : List Certificate}
    (hok : (c.list fleet).1 = .ok certificates) : (d.list fleet).1 = .ok certificates := by
  cases hlist : (d.list fleet).1 with
  | error e =>
      obtain ⟨found, hfound⟩ := exists_error_of_perm hother hne hperm.symm ⟨e, hlist⟩
      rw [hok] at hfound
      contradiction
  | ok listed =>
      rw [eq_sort_of_list hne hok, eq_sort_of_list hother hlist]
      exact congrArg Except.ok (Certificate.sort_eq_of_perm (hperm.flatMap_right _) hnodup).symm

/--
Two catalogs that enumerate the same vaults of the same clients in different orders list the same
certificates in the same order, no two of them with one id, or both fail.
-/
theorem list_of_reordered {wanted other : List String} {clients : Table (Option Nat)}
    {c d : Catalog} (hc : c = ofClients wanted clients) (hd : d = ofClients other clients)
    (hsame : ∀ id, id ∈ c.vaultIds ↔ id ∈ d.vaultIds) {fleet : Fleet}
    (hfirst : c.IsSteady fleet (c.list fleet).2.clock.wall)
    (hsecond : d.IsSteady fleet (d.list fleet).2.clock.wall)
    (hdistinct : ∀ vaultId ∈ c.vaultIds, ∀ name, c.client? vaultId = some name →
      ∀ certificates, (Fleet.list name fleet).1 = .ok certificates →
        (certificates.map (·.id)).Nodup) :
    ((∃ e, (c.list fleet).1 = .error e) ∧ ∃ e, (d.list fleet).1 = .error e) ∨
      ∃ certificates, (c.list fleet).1 = .ok certificates ∧
        (d.list fleet).1 = .ok certificates ∧ (certificates.map (·.id)).Nodup := by
  have hids : c.vaultIds.Perm d.vaultIds :=
    (List.perm_ext_iff_of_nodup (hc ▸ nodup_vaultIds wanted clients)
      (hd ▸ nodup_vaultIds other clients)).mpr hsame
  by_cases hne : c.vaultIds = []
  · left
    have hnone : d.vaultIds = [] := List.perm_nil.mp (hne ▸ hids.symm)
    exact ⟨⟨.notConfigured, by simp [list_apply, hne]⟩, .notConfigured, by simp [list_apply, hnone]⟩
  · have hother : d.vaultIds ≠ [] := fun hnil => hne (List.perm_nil.mp (hnil ▸ hids))
    have hclients : c.clients = d.clients := by
      subst hc hd
      rfl
    have hperm := answers_perm hids hclients hfirst hsecond
    have hnodup := nodup_ids_answers hc hfirst hdistinct
    cases hlist : (c.list fleet).1 with
    | error e =>
        left
        exact ⟨⟨e, rfl⟩, exists_error_of_perm hne hother hperm ⟨e, hlist⟩⟩
    | ok certificates =>
        right
        refine ⟨certificates, rfl, list_eq_of_perm hne hother hperm hnodup hlist, ?_⟩
        rw [eq_sort_of_list hne hlist, ((Certificate.sort_perm _).map _).nodup_iff]
        exact hnodup

def turnedCatalog : Catalog :=
  ofClients ["east", "west", "void", "gone", "down"] mixedCatalog.clients

theorem isSteady_mixed (c : Catalog) (last : Nat) : c.IsSteady mixedFleet last := by
  apply isSteady_of_uncached
  · intro v r hremote
    simp [mixedFleet, Fleet.start] at hremote
  · intro v b hmemory
    obtain ⟨rfl, -⟩ : v = Fleet.sampleClient ∧ b = sampleServer [("pki", "0a:1b")] := by
      simpa [mixedFleet, Fleet.start] using hmemory
    rfl

theorem list_turned : mixedCatalog.vaultIds ≠ turnedCatalog.vaultIds ∧
    ∃ certificates, (mixedCatalog.list mixedFleet).1 = .ok certificates ∧
      (turnedCatalog.list mixedFleet).1 = .ok certificates ∧
        (certificates.map (·.id)).Nodup := by
  have hmixed : mixedCatalog.vaultIds = ["down", "gone", "void", "west", "east"] := by decide
  have hturned : turnedCatalog.vaultIds = ["east", "west", "void", "gone", "down"] := by decide
  have hids : ∀ vaultId ∈ mixedCatalog.vaultIds,
      (((mixedCatalog.ask vaultId mixedFleet).1.toOption.getD []).map (·.id)).Nodup := by
    decide +kernel
  have hsame : ∀ id, id ∈ mixedCatalog.vaultIds ↔ id ∈ turnedCatalog.vaultIds := by
    intro id
    rw [hmixed, hturned]
    simp only [List.mem_cons, List.not_mem_nil]
    tauto
  have hlists := list_of_reordered (c := mixedCatalog) (d := turnedCatalog) rfl rfl hsame
    (isSteady_mixed _ _) (isSteady_mixed _ _) fun vaultId hvault name hclient certificates hok => by
      have hanswer : (mixedCatalog.ask vaultId mixedFleet).1 = .ok certificates := by
        simp only [ask, hclient, hok]
      simpa [hanswer, Except.toOption] using hids vaultId hvault
  refine ⟨by rw [hmixed, hturned]; decide, ?_⟩
  rcases hlists with ⟨hfailed, -⟩ | hlisted
  · obtain ⟨e, hempty⟩ := (exists_error_iff (by rw [hmixed]; decide) mixedFleet).mp hfailed
      ("void", .ok []) (by simp [answers_mixed])
    contradiction
  · exact hlisted

end CertCatalog.Catalog
