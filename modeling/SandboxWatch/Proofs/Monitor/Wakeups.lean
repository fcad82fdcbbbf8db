import SandboxWatch.Proofs.Cache.Visibility
import SandboxWatch.Proofs.Monitor.Interleaving

/-!
# SandboxWatch.Proofs.Monitor.Wakeups

No change is lost on a client. The two writes of an event and its announcements may fall anywhere
between the client's own steps; still, whenever what the client saw is out of date, either a signal
waits for it or a feed owes its namespace an announcement.

* `Feed.Sound`          — what holds of a feed between any two of its steps.
* `System.Informed`     — the client is up to date, or is going to be woken.
* `System.Sound.step`   — one step of any kind keeps both.
* `System.signal_waits` — with no event under way, whoever is out of date has a signal.
-/

namespace SandboxWatch

/-! ## Feeds -/

namespace Feed

variable {α β : Type} [Resource α]

/-- The namespaces that are yet to hear of what has been written. -/
def owed (f : Feed α) : List String :=
  match f.flight with
  | .stored _ owed => owed
  | .announcing owed => owed
  | _ => []

/-- The index is what the store calls for, or will be once it is written; and as long as it is not,
a namespace that nothing is owed to sees no difference. -/
def Sound (ns : String) (view : KindCache α → β) (f : Feed α) : Prop :=
  match f.flight with
  | .idle => f.cache.Consistent
  | .collected e owed => f.cache.Consistent ∧ owed = f.cache.touched e
  | .stored e owed =>
    Agree f.cache.store.contents (f.cache.index.write e) ∧
      (ns ∉ owed → view ((f.cache.writeIndex e).markSynced e) = view f.cache)
  | .announcing _ => f.cache.Consistent

variable {ns : String} {view : KindCache α → β} {f f' : Feed α} {r r' : Registry}

theorem Sound.step (hview : KindCache.Announced ns view) (h : f.Sound ns view)
    (hs : Step f r f' r') : f'.Sound ns view := by
  cases hs with
  | collect e => exact ⟨h, rfl⟩
  | refuse _ => exact h.1
  | @store c c' r e owed hw =>
    obtain ⟨hc, howed⟩ := h
    refine ⟨hc.ahead hw, fun hns => ?_⟩
    have hns : ns ∉ c.touched e := howed ▸ hns
    -- neither write shows, so what is seen between them is what was seen before and will be after
    exact (hview.indexed hc hw hns).trans (hview.stored hc hw hns).symm
  | index => exact h.1
  | announce => exact h
  | finish => exact h

/-- A step that changes the view leaves an announcement to be made. -/
theorem Sound.view_step (hview : KindCache.Announced ns view) (h : f.Sound ns view)
    (hs : Step f r f' r') : view f'.cache = view f.cache ∨ ns ∈ f'.owed := by
  cases hs with
  | collect e => exact .inl (hview.counted _ e)
  | refuse _ => exact .inl rfl
  | @store c c' r e owed hw =>
    obtain ⟨hc, howed⟩ := h
    have howed : owed = c.touched e := howed
    by_cases hns : ns ∈ owed
    · exact .inr hns
    · exact .inl (hview.stored hc hw (howed ▸ hns))
  | @index c r e owed =>
    by_cases hns : ns ∈ owed
    · exact .inr hns
    · exact .inl (h.2 hns)
  | announce => exact .inl rfl
  | finish => exact .inl rfl

theorem Step.owed (hs : Step f r f' r') (h : ns ∈ f.owed) : ns ∈ f'.owed ∨ r' = r.notify ns := by
  cases hs with
  | collect e => cases h
  | refuse _ => cases h
  | store _ => cases h
  | index => exact .inl h
  | announce =>
    rcases List.mem_cons.mp h with rfl | hrest
    · exact .inr rfl
    · exact .inl hrest
  | finish => cases h

theorem Step.undisturbed (hs : Step f r f' r') (id : WatchId) : Registry.Undisturbed id r r' := by
  cases hs with
  | announce => exact .of_notify r _ id
  | _ => exact .refl id r

theorem Step.synced (hs : Step f r f' r') (h : f.cache.synced = true) :
    f'.cache.synced = true := by
  cases hs with
  | collect e => exact h
  | refuse _ => exact h
  | store hw => exact (KindCache.writeStore?_eq_some hw).2.2.trans h
  | index => exact Bool.or_eq_true_iff.mpr (.inl h)
  | announce => exact h
  | finish => exact h

end Feed

/-! ## The whole -/

namespace System

variable {ns : String} {s s' s₀ : System} {id : WatchId}

def Owes (ns : String) (s : System) : Prop := ns ∈ s.pods.owed ∨ ns ∈ s.namespaces.owed

/-- The client behind the id is up to date with what it saw, or is going to be woken. -/
def Informed (ns : String) (s : System) (id : WatchId)
    (seen : Except StatusError SandboxStatus) : Prop :=
  seen = s.status ns ∨ s.registry.HasSignal id ∨ s.Owes ns

/-- The client listens, and as long as it is registered it is informed. -/
structure Attended (ns : String) (s : System) (client : Client) : Prop where
  listening : s.registry.Listening client.id
  issued : client.id ≤ s.registry.issued
  informed {seen : Except StatusError SandboxStatus} : client.seen = some seen →
    client.id ∈ s.registry.registered ns → s.Informed ns client.id seen

structure Sound (ns : String) (s : System) : Prop where
  pods : s.pods.Sound ns fun c => c.listing ns
  namespaces : s.namespaces.Sound ns fun c => c.store.contents ⟨none, ns⟩
  podsSynced : s.pods.cache.synced = true
  namespacesSynced : s.namespaces.cache.synced = true
  client {client : Client} : s.client = some client → Attended ns s client

theorem status_congr (h : s.Sound ns) (hp : s'.pods.cache.synced = true)
    (hn : s'.namespaces.cache.synced = true) (hconfig : s'.config = s.config)
    (hevents : s'.events = s.events)
    (hpods : s'.pods.cache.listing ns = s.pods.cache.listing ns)
    (hnamespace : s'.namespaces.cache.store.contents ⟨none, ns⟩ =
      s.namespaces.cache.store.contents ⟨none, ns⟩) : s'.status ns = s.status ns := by
  have hstatus : s'.status ns = sandboxStatus s.config s'.monitor.cache ns := by
    rw [← hconfig]
    rfl
  have hknown : knownEvents s'.monitor.cache ns = knownEvents s.monitor.cache ns := by
    simp only [knownEvents, ClusterCache.listEvents, monitor, hevents]
  rw [hstatus]
  exact sandboxStatus_congr h.podsSynced hp h.namespacesSynced hn hknown hpods hnamespace

/-- Whatever goes on beside the client: a status that changes leaves an announcement to be made, and
one that has been made is a signal. -/
theorem Attended.next {client : Client} (h : Attended ns s client)
    (hr : Registry.Undisturbed client.id s.registry s'.registry)
    (hstatus : s'.status ns = s.status ns ∨ s'.Owes ns)
    (howes : s.Owes ns → s'.Owes ns ∨ s'.registry = s.registry.notify ns) :
    Attended ns s' client where
  listening := hr.listening h.listening
  issued := Nat.le_trans h.issued hr.issued
  informed hseen hreg := by
    have hreg : client.id ∈ s.registry.registered ns := hr.registered hreg
    rcases h.informed hseen hreg with hsame | hsignal | howed
    · rcases hstatus with hstatus | howed
      · exact .inl (hsame.trans hstatus.symm)
      · exact .inr (.inr howed)
    · exact .inr (.inl (hr.hasSignal hsignal))
    · rcases howes howed with hstill | htold
      · exact .inr (.inr hstill)
      · have hsignal := h.listening.hasSignal_notify hreg
        exact .inr (.inl (htold ▸ hsignal))

/-! ### Steps -/

theorem Sound.pods_step (h : s.Sound ns) {f : Feed Pod} {r : Registry}
    (hs : Feed.Step s.pods s.registry f r) :
    Sound ns { s with pods := f, registry := r } where
  pods := h.pods.step (KindCache.announced_listing ns) hs
  namespaces := h.namespaces
  podsSynced := hs.synced h.podsSynced
  namespacesSynced := h.namespacesSynced
  client {client} hclient := by
    refine (h.client hclient).next (hs.undisturbed client.id) ?_ ?_
    · rcases h.pods.view_step (KindCache.announced_listing ns) hs with hview | howed
      · exact .inl (status_congr h (hs.synced h.podsSynced) h.namespacesSynced rfl rfl hview rfl)
      · exact .inr (.inl howed)
    · rintro (howed | hother)
      · exact (hs.owed howed).imp_left .inl
      · exact .inl (.inr hother)

theorem Sound.namespaces_step (h : s.Sound ns) {f : Feed Namespace} {r : Registry}
    (hs : Feed.Step s.namespaces s.registry f r) :
    Sound ns { s with namespaces := f, registry := r } where
  pods := h.pods
  namespaces := h.namespaces.step (KindCache.announced_unscoped ns) hs
  podsSynced := h.podsSynced
  namespacesSynced := hs.synced h.namespacesSynced
  client {client} hclient := by
    refine (h.client hclient).next (hs.undisturbed client.id) ?_ ?_
    · rcases h.namespaces.view_step (KindCache.announced_unscoped ns) hs with hview | howed
      · exact .inl (status_congr h h.podsSynced (hs.synced h.namespacesSynced) rfl rfl rfl hview)
      · exact .inr (.inr howed)
    · rintro (hother | howed)
      · exact .inl (.inl hother)
      · exact (hs.owed howed).imp_left .inr

theorem Sound.step (h : s.Sound ns) (hs : Step ns s s') : s'.Sound ns := by
  cases hs with
  | pods hf => exact h.pods_step hf
  | namespaces hf => exact h.namespaces_step hf
  | watch _ =>
    refine ⟨h.pods, h.namespaces, h.podsSynced, h.namespacesSynced, fun {client} hclient => ?_⟩
    cases hclient
    refine ⟨⟨{ ns }, ?_, rfl⟩, Nat.le_refl _, ?_⟩
    · rw [Registry.subscriptions_watch]
      exact if_pos rfl
    · intro seen hseen
      cases hseen
  | @look client hclient =>
    refine ⟨h.pods, h.namespaces, h.podsSynced, h.namespacesSynced, fun {client'} hclient' => ?_⟩
    cases hclient'
    have ha := h.client hclient
    refine ⟨ha.listening, ha.issued, fun {seen} hseen _ => ?_⟩
    cases hseen
    exact .inl rfl
  | @take client r hclient htake =>
    refine ⟨h.pods, h.namespaces, h.podsSynced, h.namespacesSynced, fun {client'} hclient' => ?_⟩
    cases hclient'
    have ha := h.client hclient
    obtain ⟨_, _, _, _, rfl⟩ := Registry.tryChanged?_eq_some_iff.mp htake
    refine ⟨Registry.listening_update (fun s => rfl) ha.listening, ?_, ?_⟩
    · rw [Registry.issued_update]
      exact ha.issued
    · intro seen hseen
      cases hseen
  | @act a r hspares hact =>
    refine ⟨h.pods, h.namespaces, h.podsSynced, h.namespacesSynced, fun {client} hclient => ?_⟩
    have ha := h.client hclient
    have hr := Registry.Undisturbed.of_perform? hact (hspares client hclient) ha.issued
    exact ha.next hr (.inl rfl) .inl

theorem Sound.steps (h : s.Sound ns) (hs : Steps ns s s') : s'.Sound ns := by
  induction hs with
  | refl => exact h
  | cons hstep _ ih => exact ih (h.step hstep)

/-! ### Runs -/

/-- All kinds have been listed, no event is under way, and the client is yet to come. -/
structure Start (s : System) : Prop where
  cache : s.monitor.cache.Reachable
  synced : s.monitor.cache.isSynced = true
  podsIdle : s.pods.flight = .idle
  namespacesIdle : s.namespaces.flight = .idle
  client : s.client = none

theorem Start.sound (h : s.Start) (ns : String) : s.Sound ns where
  pods := by
    rw [Feed.Sound, h.podsIdle]
    exact h.cache.consistent.1
  namespaces := by
    rw [Feed.Sound, h.namespacesIdle]
    exact h.cache.consistent.2.2
  podsSynced := (ClusterCache.isSynced_iff.mp h.synced).1
  namespacesSynced := (ClusterCache.isSynced_iff.mp h.synced).2.2
  client hclient := by
    rw [h.client] at hclient
    cases hclient

/-- Whatever has happened and in whatever order: when no event is under way, a client that is still
registered and saw something else than it would see now has a signal to take. -/
theorem signal_waits (h₀ : s₀.Start) (h : Steps ns s₀ s) (hpods : s.pods.flight = .idle)
    (hnamespaces : s.namespaces.flight = .idle) {seen : Except StatusError SandboxStatus}
    (hclient : s.client = some { id, seen := some seen })
    (hreg : id ∈ s.registry.registered ns) (hstale : seen ≠ s.status ns) :
    ∃ r, s.registry.tryChanged? id = some (r, true) := by
  have hattended := ((h₀.sound ns).steps h).client hclient
  -- a feed without an event under way owes nothing
  rcases hattended.informed rfl hreg with hsame | hsignal | howed | howed
  · exact absurd hsame hstale
  · exact Registry.hasSignal_iff.mp hsignal
  · rw [Feed.owed, hpods] at howed
    cases howed
  · rw [Feed.owed, hnamespaces] at howed
    cases howed

def oneNamespace : System where
  config := {}
  pods := { cache := (KindCache.empty.apply (.restarted [])).1 }
  namespaces :=
    { cache := (KindCache.empty.apply (.restarted [{ metadata := { name := some "ns1" } }])).1 }
  events := (KindCache.empty.apply (.restarted [])).1
  registry := {}

def looked : System :=
  { oneNamespace with
    registry := (oneNamespace.registry.watch "ns1").1
    client := some { id := 1, seen := some (oneNamespace.status "ns1") } }

/-- A full listing has come that the namespace is missing from. -/
def relisted : System :=
  { looked with
    namespaces := { cache := (looked.namespaces.cache.apply (.restarted [])).1 }
    registry := looked.registry.notifyAll ["ns1"] }

theorem start_oneNamespace : oneNamespace.Start where
  cache := .apply (.namespaces (.restarted [{ metadata := { name := some "ns1" } }]))
    (.apply (.events (.restarted [])) (.apply (.pods (.restarted [])) .empty))
  synced := by decide +kernel
  podsIdle := rfl
  namespacesIdle := rfl
  client := rfl

theorem steps_relisted : Steps "ns1" oneNamespace relisted := by
  have htold : (looked.namespaces.cache.apply (.restarted [])).2 = .ok ["ns1"] := by decide +kernel
  have hfeed := Feed.Steps.of_apply looked.namespaces.cache looked.registry (.restarted [])
  rw [htold] at hfeed
  exact .cons (.watch rfl) (.cons (.look rfl) (.of_namespaces hfeed looked))

theorem signal_waits_relisted :
    oneNamespace.Start ∧ Steps "ns1" oneNamespace relisted ∧
      1 ∈ relisted.registry.registered "ns1" ∧
      oneNamespace.status "ns1" ≠ relisted.status "ns1" ∧
      ∃ r, relisted.registry.tryChanged? 1 = some (r, true) := by
  have hreg : 1 ∈ relisted.registry.registered "ns1" := by decide +kernel
  have hstale : oneNamespace.status "ns1" ≠ relisted.status "ns1" := by decide +kernel
  exact ⟨start_oneNamespace, steps_relisted, hreg, hstale,
    signal_waits start_oneNamespace steps_relisted rfl rfl rfl hreg hstale⟩

end System
end SandboxWatch
