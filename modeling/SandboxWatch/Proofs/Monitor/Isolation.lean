import SandboxWatch.Monitor.Basic
import SandboxWatch.Proofs.Cache.Visibility
import SandboxWatch.Proofs.Registry.Effects

/-!
# SandboxWatch.Proofs.Monitor.Isolation

Namespaces do not show through each other. Two caches that know the same of a namespace answer the
same for it, whatever else either of them has been told; and a change to an object of another
namespace is no signal to its subscribers.

* `ClusterCache.SameFor` — two caches know the same objects of a namespace.
* `Registry.LeftAlone`   — the subscribers of a namespace are as they were.
* `isolated`             — neither an answer nor a signal tells of other namespaces.
-/

namespace SandboxWatch

/-! ## Answers -/

namespace KindCache

variable {α : Type} [Resource α] {c c' : KindCache α} {own : α → Prop} {k : ObjectKey} {ns : String}

/-- Of the objects that are its own, each of the caches knows those that the other knows. -/
def SameOf (own : α → Prop) (c c' : KindCache α) : Prop :=
  ∀ o, own o → (o ∈ c.store.objects ↔ o ∈ c'.store.objects)

theorem Consistent.contents_eq_some_iff (h : c.Consistent) {o : α} :
    c.store.contents k = some o ↔ o ∈ c.store.objects ∧ ObjectKey.of? o = some k := by
  rw [Store.mem_objects]
  constructor
  · intro ho
    exact ⟨⟨k, ho⟩, h.keyed ho⟩
  · rintro ⟨⟨k', ho⟩, hk⟩
    cases (h.keyed ho).symm.trans hk
    exact ho

theorem SameOf.contents (hs : SameOf own c c') (h : c.Consistent) (h' : c'.Consistent)
    (hown : ∀ o, ObjectKey.of? o = some k → own o) : c'.store.contents k = c.store.contents k := by
  refine Option.ext fun o => ?_
  rw [h.contents_eq_some_iff, h'.contents_eq_some_iff]
  exact and_congr_left fun hk => (hs o (hown o hk)).symm

/-- A listing looks every name up under its own key, so that nothing else can come in. -/
theorem SameOf.listing (hs : SameOf (fun o => (Resource.metadata o).ns = some ns) c c')
    (h : c.Consistent) (h' : c'.Consistent) : c'.listing ns = c.listing ns := by
  have hheld (name : String) :
      c'.store.contents ⟨some ns, name⟩ = c.store.contents ⟨some ns, name⟩ :=
    hs.contents h h' fun o hk => (ObjectKey.of?_eq_some_iff.mp hk).1
  exact h.listing_congr (names_congr h h' hheld) hheld

end KindCache

/-- The caches know the same pods and events of the namespace, and the same of the namespace
itself. -/
structure ClusterCache.SameFor (ns : String) (c c' : ClusterCache) : Prop where
  pods : KindCache.SameOf (fun p => p.metadata.ns = some ns) c.pods c'.pods
  events : KindCache.SameOf (fun e => e.metadata.ns = some ns) c.events c'.events
  namespaces : KindCache.SameOf (fun n => n.metadata.ns = none ∧ n.metadata.name = some ns)
    c.namespaces c'.namespaces

theorem ClusterCache.SameFor.sandboxStatus {c c' : ClusterCache} {ns : String}
    (h : c.SameFor ns c') (hc : c.Reachable) (hc' : c'.Reachable) (hs : c.isSynced = true)
    (hs' : c'.isSynced = true) (config : Config) :
    sandboxStatus config c' ns = sandboxStatus config c ns := by
  obtain ⟨hpods, hevents, hnamespaces⟩ := hc.consistent
  obtain ⟨hpods', hevents', hnamespaces'⟩ := hc'.consistent
  obtain ⟨hp, he, hn⟩ := ClusterCache.isSynced_iff.mp hs
  obtain ⟨hp', he', hn'⟩ := ClusterCache.isSynced_iff.mp hs'
  have hlisting : c'.events.listing ns = c.events.listing ns := h.events.listing hevents hevents'
  have hknown : knownEvents c' ns = knownEvents c ns := by
    rw [knownEvents, knownEvents, ClusterCache.listEvents, ClusterCache.listEvents,
      KindCache.listIn_synced he', KindCache.listIn_synced he, hlisting]
  exact sandboxStatus_congr hp hp' hn hn' hknown (h.pods.listing hpods hpods')
    (h.namespaces.contents hnamespaces hnamespaces' fun n hk => ObjectKey.of?_eq_some_iff.mp hk)

/-! ## Signals -/

/-- The subscriptions to the namespace are as they were, and so are their registrations. -/
structure Registry.LeftAlone (ns : String) (r r' : Registry) : Prop where
  subscriptions {id : WatchId} {s : Subscription} :
    r.subscriptions[id]? = some s → s.ns = ns → r'.subscriptions[id]? = some s
  registered {id : WatchId} : id ∈ r'.registered ns ↔ id ∈ r.registered ns

namespace Registry

variable {r r' r'' : Registry} {ns : String}

theorem LeftAlone.refl (ns : String) (r : Registry) : LeftAlone ns r r := ⟨fun h _ => h, Iff.rfl⟩

theorem LeftAlone.trans (h : LeftAlone ns r r') (h' : LeftAlone ns r' r'') : LeftAlone ns r r'' where
  subscriptions hs hns := h'.subscriptions (h.subscriptions hs hns) hns
  registered := h'.registered.trans h.registered

theorem Orderly.leftAlone_notify (hr : r.Orderly) {other : String} (hne : other ≠ ns) :
    LeftAlone ns r (r.notify other) where
  subscriptions hs hns := by
    rw [subscriptions_notify_of_ne hr hs (hns ▸ hne), hs]
  registered {id} := by
    rw [mem_registered_notify]
    exact and_iff_left fun h => hne h.1.symm

theorem Orderly.leftAlone_notifyAll {namespaces : List String} (hr : r.Orderly)
    (hns : ns ∉ namespaces) : LeftAlone ns r (r.notifyAll namespaces) := by
  induction namespaces generalizing r with
  | nil => exact .refl ns r
  | cons other rest ih =>
    have hne : other ≠ ns := fun heq => hns (heq ▸ List.mem_cons_self)
    have hrest : ns ∉ rest := fun hmem => hns (List.mem_cons_of_mem other hmem)
    exact (hr.leftAlone_notify hne).trans (ih (hr.step (.notify other)) hrest)

end Registry

/-- One object is applied or deleted, and its scope is another than the namespace. -/
def WatchEvent.Beside {α : Type} [Resource α] (ns : String) : WatchEvent α → Prop
  | .applied o => Resource.scope o ≠ .within ns
  | .deleted o => Resource.scope o ≠ .within ns
  | .restarted _ => False

def Change.Beside (ns : String) : Change → Prop
  | .pods e => e.Beside ns
  | .events e => e.Beside ns
  | .namespaces e => e.Beside ns

theorem WatchEvent.Beside.not_mem_touched {α : Type} [Resource α] {c : KindCache α}
    {e : WatchEvent α} {ns : String} (h : e.Beside ns) : ns ∉ c.touched e := by
  rw [KindCache.mem_touched]
  rintro ⟨o, ho, hscope⟩
  cases e with
  | applied o' => exact h (List.mem_singleton.mp ho ▸ hscope)
  | deleted o' => exact h (List.mem_singleton.mp ho ▸ hscope)
  | restarted os => exact h

theorem KindCache.not_mem_of_apply_ok {α : Type} [Resource α] {c : KindCache α} {e : WatchEvent α}
    {ns : String} {namespaces : List String} (h : e.Beside ns)
    (hok : (c.apply e).2 = .ok namespaces) : ns ∉ namespaces := by
  by_cases hn : e.Named
  · obtain ⟨_, _, happly⟩ := c.apply_named hn
    rw [happly] at hok
    cases hok
    exact h.not_mem_touched
  · rw [c.apply_unnamed hn] at hok
    cases hok

theorem ClusterCache.not_mem_of_apply_ok {c : ClusterCache} {change : Change} {ns : String}
    {namespaces : List String} (h : change.Beside ns)
    (hok : (c.apply change).2 = .ok namespaces) : ns ∉ namespaces := by
  cases change with
  | pods e => exact KindCache.not_mem_of_apply_ok (e := e) h hok
  | events e => exact KindCache.not_mem_of_apply_ok (e := e) h hok
  | namespaces e => exact KindCache.not_mem_of_apply_ok (e := e) h hok

theorem Monitor.leftAlone_deliver {m : Monitor} (hr : m.registry.Orderly) {change : Change}
    {ns : String} (h : change.Beside ns) :
    m.registry.LeftAlone ns (m.deliver change).1.registry := by
  unfold deliver
  split
  · split
    · rename_i cache namespaces happly
      refine hr.leftAlone_notifyAll (ClusterCache.not_mem_of_apply_ok (c := m.cache) h ?_)
      rw [happly]
    · exact .refl ns _
  · exact .refl ns _

/-! ## Both -/

/-- Whatever two synced caches have been told, in whatever order: what they know of a namespace alone
decides the answer for it. And whatever has been done to a registry: a change to an object with
another scope leaves every subscriber of the namespace with the signal that it had. -/
theorem isolated (ns : String) :
    (∀ c c' : ClusterCache, c.Reachable → c'.Reachable → c.isSynced = true → c'.isSynced = true →
      c.SameFor ns c' → ∀ config, sandboxStatus config c ns = sandboxStatus config c' ns) ∧
      ∀ (m : Monitor) (h : List Registry.Entry), Registry.Journal h m.registry →
        ∀ change : Change, change.Beside ns →
          m.registry.LeftAlone ns (m.deliver change).1.registry :=
  ⟨fun _ _ hc hc' hs hs' h config => (h.sandboxStatus hc hc' hs hs' config).symm,
    fun _ _ hj _ h => Monitor.leftAlone_deliver hj.orderly h⟩

/-- A member pod that waits for its image. -/
def waitingPod (ns : Option String) : Pod :=
  { metadata :=
      { name := some "web", ns,
        labels := some <|
          (∅ : Labels).insert "blimp.customerPod" "true" |>.insert "blimp.service" "web" }
    status := some { containers := some [{ name := "web", state := some { waiting := some {} } }] } }

/-- An event of the given namespace that says of a pod of `ns1` that its image is being pulled. -/
def pullingEvent (ns : String) : Event :=
  { metadata := { name := some "pull", ns := some ns }
    involved :=
      { kind := some "Pod", ns := some "ns1", name := some "web",
        fieldPath := some (containerPath "web") }
    reason := some "Pulling"
    lastTimestamp := some { seconds := 10, nanos := 0 } }

def ns1Namespace : Namespace := { metadata := { name := some "ns1" } }

/-- Nothing is known but a namespace and its only pod. -/
def loneCache : ClusterCache :=
  .ofHistory
    [.namespaces (.restarted [ns1Namespace]), .events (.restarted []),
      .pods (.restarted [waitingPod (some "ns1")])]

/-- The same beside pods of that name in another namespace and in none, and an event of the other
namespace about the pod. -/
def crowdedCache : ClusterCache :=
  .ofHistory
    [.pods (.restarted [waitingPod none, waitingPod (some "ns2")]),
      .pods (.applied (waitingPod (some "ns1"))), .events (.restarted [pullingEvent "ns2"]),
      .namespaces (.restarted []), .namespaces (.applied ns1Namespace)]

theorem sameFor_crowdedCache : loneCache.SameFor "ns1" crowdedCache := by
  have hpods : loneCache.pods.store.objects = [waitingPod (some "ns1")] ∧
      crowdedCache.pods.store.objects =
        [waitingPod none, waitingPod (some "ns1"), waitingPod (some "ns2")] := by decide +kernel
  have hevents : loneCache.events.store.objects = [] ∧
      crowdedCache.events.store.objects = [pullingEvent "ns2"] := by decide +kernel
  have hnamespaces : loneCache.namespaces.store.objects = [ns1Namespace] ∧
      crowdedCache.namespaces.store.objects = [ns1Namespace] := by decide +kernel
  refine ⟨fun p hp => ?_, fun e he => ?_, fun n _ => ?_⟩
  · rw [hpods.1, hpods.2]
    simp only [List.mem_cons, List.not_mem_nil, or_false]
    constructor
    · rintro rfl
      exact .inr (.inl rfl)
    · rintro (rfl | rfl | rfl)
      · cases hp
      · rfl
      · exact absurd hp (by decide)
  · rw [hevents.1, hevents.2]
    simp only [List.mem_cons, List.not_mem_nil, or_false, false_iff]
    rintro rfl
    exact absurd he (by decide)
  · rw [hnamespaces.1, hnamespaces.2]

/-- Somebody is subscribed to the namespace. -/
def crowdedMonitor : Monitor where
  cache := crowdedCache
  registry := (Registry.empty.watch "ns1").1

theorem isolated_crowdedMonitor :
    loneCache.Reachable ∧ crowdedCache.Reachable ∧ loneCache.SameFor "ns1" crowdedCache ∧
      sandboxStatus {} loneCache "ns1" = sandboxStatus {} crowdedCache "ns1" ∧
      Registry.Journal [.watched "ns1" 1] crowdedMonitor.registry ∧
      Change.Beside "ns1" (.pods (.applied (waitingPod (some "ns2")))) ∧
      crowdedMonitor.registry.LeftAlone "ns1"
        (crowdedMonitor.deliver (.pods (.applied (waitingPod (some "ns2"))))).1.registry := by
  have hlone : loneCache.Reachable := .ofHistory _
  have hcrowded : crowdedCache.Reachable := .ofHistory _
  have hjournal : Registry.Journal [.watched "ns1" 1] crowdedMonitor.registry :=
    .enter .empty (.watch "ns1")
  have hbeside : Change.Beside "ns1" (.pods (.applied (waitingPod (some "ns2")))) := by
    show Resource.scope (waitingPod (some "ns2")) ≠ .within "ns1"
    decide
  obtain ⟨hanswers, hsignals⟩ := isolated "ns1"
  exact ⟨hlone, hcrowded, sameFor_crowdedCache,
    hanswers _ _ hlone hcrowded (by decide +kernel) (by decide +kernel) sameFor_crowdedCache {},
    hjournal, hbeside, hsignals crowdedMonitor _ hjournal _ hbeside⟩

end SandboxWatch
