import CertCatalog.Proofs.Fleet.Answers

/-!
# Listings with a deadline

What a client without a network answers before a deadline, and what a listing with a deadline leaves
as it was.
-/

namespace CertCatalog

theorem Client.listDelay_run {α : Type} (now : Nat)
    (operation : {σ : Type} → CertificateSource σ → Action σ α) (c : Client) (net : Http.Network) :
    (Client.run now operation (c, net)).2.1.listDelay = c.listDelay := by
  cases c <;> rfl

namespace Fleet

theorem listWithin_cases (deadline name : Nat) (fleet : Fleet) :
    listWithin deadline name fleet = (some (listNow name fleet).1, (listNow name fleet).2) ∨
      listWithin deadline name fleet =
        (none, { (listNow name fleet).2 with clients := fleet.clients }) := by
  unfold listWithin
  dsimp only
  split
  · exact .inr rfl
  · exact .inl rfl

theorem log_listWithin (deadline name : Nat) (fleet : Fleet) :
    (listWithin deadline name fleet).2.log = fleet.log ++ [(name, .list)] := by
  rcases listWithin_cases deadline name fleet with h | h <;> rw [h] <;> exact log_listNow name fleet

theorem clock_listWithin (deadline name : Nat) (fleet : Fleet) :
    (listWithin deadline name fleet).2.clock = fleet.clock := by
  rcases listWithin_cases deadline name fleet with h | h <;> rw [h] <;>
    exact clock_listNow name fleet

theorem network_listWithin (deadline name : Nat) (fleet : Fleet) :
    (listWithin deadline name fleet).2.network = (listNow name fleet).2.network := by
  rcases listWithin_cases deadline name fleet with h | h <;> rw [h]

/-! ## The delay of a client -/

theorem listDelay_listNow (name other : Nat) (fleet : Fleet) :
    (listNow name fleet).2.listDelay other = fleet.listDelay other := by
  by_cases hname : other = name
  · subst hname
    unfold listDelay
    cases hclient : fleet.clients[other]? with
    | none => simp only [listNow, call_of_missing hclient, clients_record, hclient]
    | some c =>
        rw [listNow, call_of_client hclient]
        have hself := clients_called_self hclient .list
          (Client.run fleet.clock.wall (fun source => source.list) (c, fleet.network)).2.1
        have hdelay := Client.listDelay_run fleet.clock.wall (fun source => source.list) c
          fleet.network
        exact (congrArg (fun found => (found.map Client.listDelay).getD 0) hself).trans hdelay
  · unfold listDelay
    rw [clients_listNow_of_ne fleet hname]

theorem listDelay_listWithin (deadline name other : Nat) (fleet : Fleet) :
    (listWithin deadline name fleet).2.listDelay other = fleet.listDelay other := by
  rcases listWithin_cases deadline name fleet with h | h <;> rw [h]
  · exact listDelay_listNow name other fleet
  · rfl

/-! ## Clients without a network -/

theorem KeepsAnswer.timeTaken_eq {fleet : Fleet} {last name : Nat}
    {answer : Outcome (List Certificate)} (h : fleet.KeepsAnswer last name answer)
    (hle : fleet.clock.wall ≤ last) {after : Fleet}
    (hafter : after.network = (Fleet.listNow name fleet).2.network) :
    timeTaken fleet after name = fleet.listDelay name := by
  have hnetwork := (h.listNow_eq hle).2.1
  rw [timeTaken, hafter, hnetwork, Nat.sub_self, Nat.add_zero]

theorem KeepsAnswer.listWithin_eq {fleet : Fleet} {last name : Nat}
    {answer : Outcome (List Certificate)} (h : fleet.KeepsAnswer last name answer)
    (hle : fleet.clock.wall ≤ last) (deadline : Nat) :
    (Fleet.listWithin deadline name fleet).1 =
      if deadline < fleet.listDelay name then none else some answer := by
  have htime := h.timeTaken_eq hle rfl
  have hanswer := (h.listNow_eq hle).1
  unfold Fleet.listWithin
  simp only [htime]
  split
  · rfl
  · exact congrArg some hanswer

theorem KeepsAnswer.listWithin {fleet : Fleet} {last other : Nat}
    {answer : Outcome (List Certificate)} (h : fleet.KeepsAnswer last other answer)
    (hle : fleet.clock.wall ≤ last) (deadline name : Nat) :
    (Fleet.listWithin deadline name fleet).2.KeepsAnswer last other answer := by
  rcases listWithin_cases deadline name fleet with hcase | hcase <;> rw [hcase]
  · exact h.listNow hle name
  · -- The call was given up, and all clients are as before; the clock has not moved.
    unfold KeepsAnswer at h ⊢
    have hclock := clock_listNow name fleet
    simp only [hclock]
    exact h

/-! ## Scripted clients -/

def KeepsScripts (fleet later : Fleet) : Prop :=
  ∀ (name : Nat) (script : ScriptedClient), fleet.clients[name]? = some (Client.scripted script) →
    later.clients[name]? = some (Client.scripted script)

theorem KeepsScripts.refl (fleet : Fleet) : KeepsScripts fleet fleet :=
  fun _ _ hclient => hclient

theorem KeepsScripts.trans {first second third : Fleet} (hfirst : KeepsScripts first second)
    (hsecond : KeepsScripts second third) : KeepsScripts first third :=
  fun name script hclient => hsecond name script (hfirst name script hclient)

theorem keepsScripts_listNow (name : Nat) (fleet : Fleet) :
    KeepsScripts fleet (listNow name fleet).2 := by
  intro other script hclient
  by_cases hname : other = name
  · subst hname
    rw [listNow, call_of_client hclient]
    exact clients_called_self hclient .list (.scripted script)
  · rw [clients_listNow_of_ne fleet hname]
    exact hclient

theorem keepsScripts_listWithin (deadline name : Nat) (fleet : Fleet) :
    KeepsScripts fleet (listWithin deadline name fleet).2 := by
  rcases listWithin_cases deadline name fleet with h | h <;> rw [h]
  · exact keepsScripts_listNow name fleet
  · exact fun _ _ hclient => hclient

theorem keepsAnswer_scripted {fleet : Fleet} {name : Nat} {script : ScriptedClient}
    (hclient : fleet.clients[name]? = some (.scripted script)) (last : Nat) :
    fleet.KeepsAnswer last name script.list := by
  unfold KeepsAnswer
  rw [hclient]
  exact rfl

theorem listDelay_scripted {fleet : Fleet} {name : Nat} {script : ScriptedClient}
    (hclient : fleet.clients[name]? = some (.scripted script)) :
    fleet.listDelay name = script.delay := by
  simp only [listDelay, hclient, Option.map_some, Option.getD_some, Client.listDelay]

end Fleet
end CertCatalog
