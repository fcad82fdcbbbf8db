import SandboxWatch.Proofs.Cache.Agreement
import SandboxWatch.Proofs.Cache.Selection
import SandboxWatch.Status.Sandbox

/-!
# SandboxWatch.Proofs.Status.Answer

The status of a sandbox as a table over what is cached. The namespace decides first, and while it is
unknown, absent or going away nothing is asked of the pods and events.

* `Serves`, `Stands`   — the member pods that name a service, and the one of them that counts.
* `Answer`             — the table.
* `sandboxStatus_iff`  — on every cache that changes can lead to, the status is what the table says.
-/

namespace SandboxWatch

/-! ## The table -/

def Pod.HasLabel (p : Pod) (key value : String) : Prop :=
  ∃ labels, p.metadata.labels = some labels ∧ labels[key]? = some value

/-- A pod of the namespace that belongs to the sandbox and names the service. -/
structure Serves (config : Config) (c : ClusterCache) (ns service : String) (p : Pod) : Prop where
  held : c.pods.store.contents.Within ns p
  member : p.HasLabel config.memberLabel "true"
  names : p.HasLabel config.serviceLabel service

/-- Of the pods that serve, the one with the greatest name. -/
def Stands (config : Config) (c : ClusterCache) (ns service : String) (p : Pod) : Prop :=
  Serves config c ns service p ∧ ∀ q, Serves config c ns service q → q = p ∨ Precedes q p

/-- The events that pulls are read from: all of the namespace, and none before the first listing. -/
def EventsFor (c : ClusterCache) (ns : String) (events : List Event) : Prop :=
  if c.events.synced then c.events.store.contents.Lists ns events else events = []

inductive Answer (config : Config) (c : ClusterCache) (ns : String) :
    Except StatusError SandboxStatus → Prop where
  | unknown {op : Operation} :
      c.namespaces.synced = false → op.text = "get sandbox" →
      Answer config c ns (.error (.cache op (.notSynced .namespaces)))
  | absent :
      c.namespaces.synced = true → c.namespaces.store.contents ⟨none, ns⟩ = none →
      Answer config c ns (.ok { phase := .doesNotExist, services := ∅ })
  | terminating {n : Namespace} :
      c.namespaces.synced = true → c.namespaces.store.contents ⟨none, ns⟩ = some n →
      n.phase = some "Terminating" →
      Answer config c ns (.ok { phase := .terminating, services := ∅ })
  | podsUnknown {n : Namespace} {op : Operation} :
      c.namespaces.synced = true → c.namespaces.store.contents ⟨none, ns⟩ = some n →
      n.phase ≠ some "Terminating" → c.pods.synced = false → op.text = "get services" →
      Answer config c ns (.error (.cache op (.notSynced .pods)))
  | running {n : Namespace} {events : List Event} {services : Services} :
      c.namespaces.synced = true → c.namespaces.store.contents ⟨none, ns⟩ = some n →
      n.phase ≠ some "Terminating" → c.pods.synced = true → EventsFor c ns events →
      (∀ s, s ∈ services ↔ ∃ p, Serves config c ns s p) →
      (∀ s p, Stands config c ns s p → services[s]? = some (classify p events)) →
      Answer config c ns (.ok { phase := .running, services })

/-! ## Pods and services -/

theorem Pod.service?_eq_some_iff {p : Pod} {label s : String} :
    p.service? label = some s ↔ p.HasLabel label s := by
  unfold Pod.service? Pod.HasLabel
  cases p.metadata.labels <;> simp

theorem Config.accepts_memberSelector {config : Config} {p : Pod} :
    config.memberSelector.accepts p.metadata.labels = true ↔
      p.HasLabel config.memberLabel "true" := by
  have hempty : Selector.empty.accepts p.metadata.labels = true := rfl
  have hnew : config.memberLabel ∉ Selector.empty.wanted := Std.ExtTreeMap.not_mem_empty
  rw [memberSelector, Selector.accepts_insert hnew, and_iff_right hempty]
  exact Option.bind_eq_some_iff

theorem getElem?_foldl_addService {label s : String} {events : List Event} {pods : List Pod}
    {services : Services} :
    (pods.foldl (addService label events) services)[s]? =
      ((pods.filter fun p => p.service? label = some s).getLast?.map (classify · events)).or
        services[s]? := by
  induction pods generalizing services with
  | nil => simp
  | cons p rest ih =>
    rw [List.foldl_cons, ih, addService]
    cases hp : p.service? label with
    | none => rw [List.filter_cons_of_neg (by simp [hp])]
    | some name =>
      dsimp only
      rw [Std.ExtTreeMap.getElem?_insert]
      by_cases hs : name = s
      · subst hs
        rw [List.filter_cons_of_pos (by simp [hp]), List.getLast?_cons, if_pos (by simp)]
        cases (rest.filter fun p => p.service? label = some name).getLast? <;> rfl
      · rw [List.filter_cons_of_neg (by simp [hp, hs]), if_neg (by simp [hs])]

/-- Of two pods that name one service the later one counts. -/
theorem getElem?_servicesOf (label : String) (events : List Event) (pods : List Pod) (s : String) :
    (servicesOf label events pods)[s]? =
      (pods.filter fun p => p.service? label = some s).getLast?.map (classify · events) := by
  rw [servicesOf, getElem?_foldl_addService, Std.ExtTreeMap.getElem?_empty, Option.or_none]

theorem byName_of_ordered {pods : List Pod} (h : pods.Pairwise Precedes) : byName pods = pods := by
  refine List.mergeSort_of_pairwise (h.imp fun {a b} hab => ?_)
  obtain ⟨x, y, hx, hy, hlt⟩ := hab
  have hx : a.metadata.name = some x := hx
  have hy : b.metadata.name = some y := hy
  rw [hx, hy]
  show (compare x y).isLE = true
  rw [Text.compare_eq_lt_iff.mpr hlt]
  rfl

theorem precedes_getLast? {pods : List Pod} (h : pods.Pairwise Precedes) {p : Pod}
    (hp : pods.getLast? = some p) : ∀ q ∈ pods, q = p ∨ Precedes q p := by
  obtain ⟨front, rfl⟩ := List.getLast?_eq_some_iff.mp hp
  intro q hq
  rcases List.mem_append.mp hq with hq | hq
  · exact .inr ((List.pairwise_append.mp h).2.2 q hq p List.mem_cons_self)
  · exact .inl (List.mem_singleton.mp hq)

section Running

variable {config : Config} {c : ClusterCache} {ns s : String}

/-- The services that are reported for a synced namespace. -/
def reported (config : Config) (c : ClusterCache) (ns : String) : Services :=
  servicesOf config.serviceLabel (knownEvents c ns)
    (byName ((c.pods.listing ns).filter fun p => config.memberSelector.accepts p.metadata.labels))

/-- The pods among which the last one is reported for a service. -/
def servers (config : Config) (c : ClusterCache) (ns s : String) : List Pod :=
  ((c.pods.listing ns).filter fun p => config.memberSelector.accepts p.metadata.labels).filter
    fun p => p.service? config.serviceLabel = some s

theorem mem_servers (h : c.pods.Consistent) {p : Pod} :
    p ∈ servers config c ns s ↔ Serves config c ns s p := by
  simp only [servers, List.mem_filter, decide_eq_true_eq, (h.lists_listing ns).mem,
    Config.accepts_memberSelector, Pod.service?_eq_some_iff]
  exact ⟨fun ⟨⟨hw, hm⟩, hs⟩ => ⟨hw, hm, hs⟩, fun ⟨hw, hm, hs⟩ => ⟨⟨hw, hm⟩, hs⟩⟩

theorem ordered_servers (h : c.pods.Consistent) : (servers config c ns s).Pairwise Precedes :=
  ((h.lists_listing ns).ordered.filter _).filter _

theorem getElem?_reported (h : c.pods.Consistent) :
    (reported config c ns)[s]? =
      (servers config c ns s).getLast?.map (classify · (knownEvents c ns)) := by
  rw [reported, byName_of_ordered ((h.lists_listing ns).ordered.filter _), getElem?_servicesOf]
  rfl

theorem mem_reported (h : c.pods.Consistent) :
    s ∈ reported config c ns ↔ ∃ p, Serves config c ns s p := by
  rw [Std.ExtTreeMap.mem_iff_isSome_getElem?, getElem?_reported h, Option.isSome_map,
    List.getLast?_isSome]
  constructor
  · intro hne
    obtain ⟨p, hp⟩ := List.exists_mem_of_ne_nil _ hne
    exact ⟨p, (mem_servers h).mp hp⟩
  · rintro ⟨p, hp⟩
    exact List.ne_nil_of_mem ((mem_servers h).mpr hp)

theorem Stands.getLast?_servers (h : c.pods.Consistent) {p : Pod} (hp : Stands config c ns s p) :
    (servers config c ns s).getLast? = some p := by
  have hmem : p ∈ servers config c ns s := (mem_servers h).mpr hp.1
  obtain ⟨last, hlast⟩ := Option.isSome_iff_exists.mp
    (List.getLast?_isSome.mpr (List.ne_nil_of_mem hmem))
  -- the last one and the one that stands are each at least as great as the other
  have hle := precedes_getLast? (ordered_servers h) hlast p hmem
  have hge := hp.2 last ((mem_servers h).mp (List.mem_of_getLast? hlast))
  rcases hle with rfl | hlt
  · exact hlast
  · rcases hge with rfl | hgt
    · exact hlast
    · exact absurd hgt hlt.asymm

/-- Where any pod serves, one stands. -/
theorem Serves.exists_stands (h : c.pods.Consistent) {p : Pod} (hp : Serves config c ns s p) :
    ∃ q, Stands config c ns s q := by
  have hmem : p ∈ servers config c ns s := (mem_servers h).mpr hp
  obtain ⟨last, hlast⟩ := Option.isSome_iff_exists.mp
    (List.getLast?_isSome.mpr (List.ne_nil_of_mem hmem))
  refine ⟨last, (mem_servers h).mp (List.mem_of_getLast? hlast), fun q hq => ?_⟩
  exact precedes_getLast? (ordered_servers h) hlast q ((mem_servers h).mpr hq)

theorem eventsFor_knownEvents (h : c.events.Consistent) : EventsFor c ns (knownEvents c ns) := by
  unfold EventsFor knownEvents ClusterCache.listEvents
  cases hs : c.events.synced with
  | true =>
    rw [if_pos rfl, KindCache.listIn_synced hs]
    exact h.lists_listing ns
  | false =>
    rw [KindCache.listIn_unsynced hs]
    exact if_neg Bool.false_ne_true ▸ rfl

theorem EventsFor.unique {events events' : List Event} (h : EventsFor c ns events)
    (h' : EventsFor c ns events') : events = events' := by
  unfold EventsFor at h h'
  split at h
  · rename_i hs
    rw [if_pos hs] at h'
    exact h.unique h'
  · rename_i hs
    rw [if_neg hs] at h'
    rw [h, h']

end Running

/-! ## The status -/

variable {config : Config} {c : ClusterCache} {ns : String}

theorem Operation.eq_of_text {a b : Operation} (h : a.text = b.text) : a = b := by
  cases a <;> cases b <;> first | rfl | exact absurd h (by decide)

theorem sandboxStatus_unknown (h : c.namespaces.synced = false) :
    sandboxStatus config c ns = .error (.cache .getSandbox (.notSynced .namespaces)) := by
  rw [sandboxStatus, ClusterCache.getNamespace, KindCache.getUnscoped_unsynced h]
  rfl

theorem sandboxStatus_absent (h : c.namespaces.synced = true)
    (hn : c.namespaces.store.contents ⟨none, ns⟩ = none) :
    sandboxStatus config c ns = .ok .doesNotExist := by
  rw [sandboxStatus, ClusterCache.getNamespace, KindCache.getUnscoped_synced h, hn]

theorem sandboxStatus_terminating {n : Namespace} (h : c.namespaces.synced = true)
    (hn : c.namespaces.store.contents ⟨none, ns⟩ = some n) (hphase : n.phase = some "Terminating") :
    sandboxStatus config c ns = .ok .terminating := by
  rw [sandboxStatus, ClusterCache.getNamespace, KindCache.getUnscoped_synced h, hn]
  simp [Namespace.isTerminating, hphase]

theorem sandboxStatus_podsUnknown {n : Namespace} (h : c.namespaces.synced = true)
    (hn : c.namespaces.store.contents ⟨none, ns⟩ = some n) (hphase : n.phase ≠ some "Terminating")
    (hp : c.pods.synced = false) :
    sandboxStatus config c ns = .error (.cache .getServices (.notSynced .pods)) := by
  rw [sandboxStatus, ClusterCache.getNamespace, KindCache.getUnscoped_synced h, hn]
  simp only [Namespace.isTerminating, hphase, decide_false, Bool.false_eq_true, if_false,
    ClusterCache.listPods, KindCache.listIn_unsynced hp]
  rfl

theorem sandboxStatus_running {n : Namespace} (h : c.namespaces.synced = true)
    (hn : c.namespaces.store.contents ⟨none, ns⟩ = some n) (hphase : n.phase ≠ some "Terminating")
    (hp : c.pods.synced = true) :
    sandboxStatus config c ns = .ok (.running (reported config c ns)) := by
  rw [sandboxStatus, ClusterCache.getNamespace, KindCache.getUnscoped_synced h, hn]
  simp only [Namespace.isTerminating, hphase, decide_false, Bool.false_eq_true, if_false,
    ClusterCache.listPods, KindCache.listIn_synced hp]
  rfl

/-- The status is an answer of the table. -/
theorem answer_sandboxStatus (hpods : c.pods.Consistent) (hevents : c.events.Consistent) :
    Answer config c ns (sandboxStatus config c ns) := by
  cases hs : c.namespaces.synced with
  | false => rw [sandboxStatus_unknown hs]; exact .unknown hs rfl
  | true =>
    cases hn : c.namespaces.store.contents ⟨none, ns⟩ with
    | none => rw [sandboxStatus_absent hs hn]; exact .absent hs hn
    | some n =>
      by_cases hphase : n.phase = some "Terminating"
      · rw [sandboxStatus_terminating hs hn hphase]
        exact .terminating hs hn hphase
      · cases hp : c.pods.synced with
        | false =>
          rw [sandboxStatus_podsUnknown hs hn hphase hp]
          exact .podsUnknown hs hn hphase hp rfl
        | true =>
          rw [sandboxStatus_running hs hn hphase hp]
          refine .running hs hn hphase hp (eventsFor_knownEvents hevents)
            (fun s => mem_reported hpods) fun s p hp => ?_
          rw [getElem?_reported hpods, hp.getLast?_servers hpods]
          rfl

/-- The table has no other answer. -/
theorem Answer.eq_sandboxStatus (hpods : c.pods.Consistent) (hevents : c.events.Consistent)
    {a : Except StatusError SandboxStatus} (ha : Answer config c ns a) :
    sandboxStatus config c ns = a := by
  cases ha with
  | unknown hs hop =>
    rw [sandboxStatus_unknown hs, Operation.eq_of_text (b := .getSandbox) hop]
  | absent hs hn => exact sandboxStatus_absent hs hn
  | terminating hs hn hphase => exact sandboxStatus_terminating hs hn hphase
  | podsUnknown hs hn hphase hp hop =>
    rw [sandboxStatus_podsUnknown hs hn hphase hp, Operation.eq_of_text (b := .getServices) hop]
  | @running n events services hs hn hphase hp hev hkeys hvalues =>
    rw [sandboxStatus_running hs hn hphase hp]
    have hevents := (eventsFor_knownEvents hevents).unique hev
    have hservices : reported config c ns = services := by
      refine Std.ExtTreeMap.ext_getElem? fun s => ?_
      by_cases hserves : ∃ p, Serves config c ns s p
      · obtain ⟨p, hp⟩ := hserves
        obtain ⟨q, hq⟩ := hp.exists_stands hpods
        rw [hvalues s q hq, getElem?_reported hpods, hq.getLast?_servers hpods, hevents]
        rfl
      · rw [Std.ExtTreeMap.getElem?_eq_none (mt (mem_reported hpods).mp hserves),
          Std.ExtTreeMap.getElem?_eq_none (mt (hkeys s).mp hserves)]
    rw [hservices]
    rfl

theorem Answer.services_empty {status : SandboxStatus} (ha : Answer config c ns (.ok status))
    (h : status.phase ≠ .running) : status.services = ∅ := by
  cases ha with
  | absent => rfl
  | terminating => rfl
  | running => exact absurd rfl h

/-- On every cache that changes, errors and ends of watches lead to, the status is what the table
says, and only a running sandbox has services. -/
theorem sandboxStatus_iff (hc : c.Reachable) (config : Config) (ns : String) :
    (∀ a, sandboxStatus config c ns = a ↔ Answer config c ns a) ∧
      ∀ status, sandboxStatus config c ns = .ok status → status.phase ≠ .running →
        status.services = ∅ := by
  obtain ⟨hpods, hevents, _⟩ := hc.consistent
  have hanswer : ∀ a, sandboxStatus config c ns = a ↔ Answer config c ns a := fun a =>
    ⟨fun h => h ▸ answer_sandboxStatus hpods hevents, Answer.eq_sandboxStatus hpods hevents⟩
  exact ⟨hanswer, fun status h => ((hanswer _).mp h).services_empty⟩

/-- A member pod that names the service `api`, and is in the given phase. -/
def apiPod (name phase : String) : Pod :=
  { metadata :=
      { name := some name, ns := some "ns1",
        labels := some <|
          (∅ : Labels).insert "blimp.customerPod" "true" |>.insert "blimp.service" "api" }
    status := some { phase := some phase } }

/-- Two pods of one namespace that name one service, and a third one that is no member. -/
def sharedService : ClusterCache :=
  let listed := (ClusterCache.empty.apply
    (.namespaces (.restarted [{ metadata := { name := some "ns1" } }]))).1
  (listed.apply (.pods (.restarted [apiPod "b" "Running", apiPod "a" "Pending",
    { metadata := { name := some "c", ns := some "ns1" } }]))).1

theorem reachable_sharedService : sharedService.Reachable := .apply _ (.apply _ .empty)

theorem hasLabel_apiPod {name phase s : String} :
    (apiPod name phase).HasLabel "blimp.service" s ↔ s = "api" := by
  simp [Pod.HasLabel, apiPod, eq_comm]

theorem isMember_apiPod (name phase : String) :
    (apiPod name phase).HasLabel "blimp.customerPod" "true" :=
  ⟨_, rfl, by decide +kernel⟩

theorem serves_sharedService {s : String} {p : Pod} :
    Serves {} sharedService "ns1" s p ↔
      s = "api" ∧ (p = apiPod "a" "Pending" ∨ p = apiPod "b" "Running") := by
  have hlisting : sharedService.pods.listing "ns1" =
      [apiPod "a" "Pending", apiPod "b" "Running",
        { metadata := { name := some "c", ns := some "ns1" } }] := by decide +kernel
  have hheld := (reachable_sharedService.consistent.1.lists_listing "ns1").mem p
  simp only [hlisting, List.mem_cons, List.not_mem_nil, or_false] at hheld
  constructor
  · intro h
    obtain rfl | rfl | rfl := hheld.mpr h.held
    · exact ⟨hasLabel_apiPod.mp h.names, .inl rfl⟩
    · exact ⟨hasLabel_apiPod.mp h.names, .inr rfl⟩
    · -- the third pod has no labels
      obtain ⟨_, hlabels, _⟩ := h.names
      cases hlabels
  · rintro ⟨rfl, rfl | rfl⟩
    · exact ⟨hheld.mp (.inl rfl), isMember_apiPod _ _, hasLabel_apiPod.mpr rfl⟩
    · exact ⟨hheld.mp (.inr (.inl rfl)), isMember_apiPod _ _, hasLabel_apiPod.mpr rfl⟩

/-- Of the two pods the one with the greater name counts. -/
theorem stands_sharedService {s : String} {p : Pod}
    (h : Stands {} sharedService "ns1" s p) : s = "api" ∧ p = apiPod "b" "Running" := by
  obtain ⟨rfl, rfl | rfl⟩ := serves_sharedService.mp h.1
  · refine absurd (h.2 _ (serves_sharedService.mpr ⟨rfl, .inr rfl⟩)) ?_
    rintro (heq | ⟨x, y, hx, hy, hlt⟩)
    · exact absurd heq (by decide +kernel)
    · cases hx
      cases hy
      exact absurd hlt (by decide +kernel)
  · exact ⟨rfl, rfl⟩

/-- The sandbox runs, and the later of the two pods tells the status of its only service. -/
theorem sandboxStatus_sharedService :
    sharedService.Reachable ∧
      sandboxStatus {} sharedService "ns1" = .ok
        { phase := .running
          services := (∅ : Services).insert "api" { phase := .running } } := by
  obtain ⟨htable, _⟩ := sandboxStatus_iff reachable_sharedService {} "ns1"
  have hnamespace : sharedService.namespaces.store.contents ⟨none, "ns1"⟩ =
      some { metadata := { name := some "ns1" } } := by decide +kernel
  have hevents : EventsFor sharedService "ns1" [] := by
    rw [EventsFor, if_neg (by decide +kernel)]
  refine ⟨reachable_sharedService,
    (htable _).mpr (.running rfl hnamespace (by decide) rfl hevents ?_ ?_)⟩
  · intro s
    simp [serves_sharedService, eq_comm (a := s)]
  · intro s p hp
    obtain ⟨rfl, rfl⟩ := stands_sharedService hp
    rw [Std.ExtTreeMap.getElem?_insert_self]
    rfl

end SandboxWatch
