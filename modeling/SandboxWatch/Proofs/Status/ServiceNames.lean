import SandboxWatch.Proofs.Status.Answer

/-!
# SandboxWatch.Proofs.Status.ServiceNames

The names that services are reported under. A member pod without the service label is passed over. A
pod whose label has no text names a service all the same, the one with the empty name, and it is
reported. Neither of them makes a difference to any other service.

* `naming`               — the pods that name a service by a text.
* `erase_servicesOf`     — all other pods add nothing but the empty name.
* `empty_name_mem_iff`   — when the empty name is reported, and what stands beside it.
* `empty_name_reported`  — a pod with an empty label.
-/

namespace SandboxWatch

/-- The pods that name a service by a text. -/
def naming (label : String) (pods : List Pod) : List Pod :=
  pods.filter fun p => p.service? label ≠ none ∧ p.service? label ≠ some ""

variable {label s : String} {pods : List Pod}

/-- Who names a service by a text is among those that do. -/
theorem filter_naming (hs : s ≠ "") :
    (naming label pods).filter (fun p => p.service? label = some s) =
      pods.filter fun p => p.service? label = some s := by
  rw [naming, List.filter_filter]
  refine List.filter_congr fun p _ => ?_
  by_cases hp : p.service? label = some s
  · simp [hp, hs]
  · simp [hp]

theorem filter_naming_empty :
    (naming label pods).filter (fun p => p.service? label = some "") = [] := by
  rw [naming, List.filter_filter, List.filter_eq_nil_iff]
  intro p _
  by_cases hp : p.service? label = some "" <;> simp [hp]

theorem erase_servicesOf (label : String) (events : List Event) (pods : List Pod) :
    (servicesOf label events pods).erase "" = servicesOf label events (naming label pods) := by
  refine Std.ExtTreeMap.ext_getElem? fun s => ?_
  rw [Std.ExtTreeMap.getElem?_erase, getElem?_servicesOf, getElem?_servicesOf]
  by_cases hs : "" = s
  · subst hs
    simp [filter_naming_empty]
  · rw [filter_naming (Ne.symm hs), if_neg (by simpa using hs)]

section Status

variable {config : Config} {c : ClusterCache} {ns : String} {status : SandboxStatus}

/-- The member pods of a namespace, in the order in which their services are taken in. -/
def memberPods (config : Config) (c : ClusterCache) (ns : String) : List Pod :=
  byName ((c.pods.listing ns).filter fun p => config.memberSelector.accepts p.metadata.labels)

/-- Of an answer, either the services are those of the member pods, or there are none. -/
theorem services_cases (hpods : c.pods.Consistent) (hevents : c.events.Consistent)
    (h : sandboxStatus config c ns = .ok status) :
    status.phase = .running ∧ status.services = reported config c ns ∨
      status.phase ≠ .running ∧ status.services = ∅ := by
  have ha : Answer config c ns (.ok status) := h ▸ answer_sandboxStatus hpods hevents
  cases ha with
  | absent => exact .inr ⟨by decide, rfl⟩
  | terminating => exact .inr ⟨by decide, rfl⟩
  | running hs hn hphase hp =>
    rw [sandboxStatus_running hs hn hphase hp] at h
    cases h
    exact .inl ⟨rfl, rfl⟩

/-- The empty name is reported exactly if a member pod has a service label without a text. All other
services are those that would be reported without this pod, and without the pods that have no
service label. -/
theorem empty_name_mem_iff (hc : c.Reachable) (config : Config) (ns : String)
    (h : sandboxStatus config c ns = .ok status) :
    ("" ∈ status.services ↔ status.phase = .running ∧ ∃ p, Serves config c ns "" p) ∧
      (status.phase = .running →
        status.services.erase "" =
          servicesOf config.serviceLabel (knownEvents c ns)
            (naming config.serviceLabel (memberPods config c ns))) := by
  obtain ⟨hpods, hevents, _⟩ := hc.consistent
  rcases services_cases hpods hevents h with ⟨hphase, hservices⟩ | ⟨hphase, hservices⟩
  · rw [hservices, mem_reported hpods]
    refine ⟨(and_iff_right hphase).symm, fun _ => ?_⟩
    exact erase_servicesOf config.serviceLabel (knownEvents c ns) (memberPods config c ns)
  · rw [hservices]
    exact ⟨⟨fun hmem => absurd hmem Std.ExtTreeMap.not_mem_empty, fun hr => absurd hr.1 hphase⟩,
      fun hr => absurd hr hphase⟩

end Status

/-- A member pod with this service label, if any. -/
def labelledPod (name : String) (service : Option String) : Pod :=
  let member := (∅ : Labels).insert "blimp.customerPod" "true"
  { metadata :=
      { name := some name, ns := some "ns1"
        labels := some <|
          match service with
          | some s => member.insert "blimp.service" s
          | none => member }
    status := some { phase := some "Running" } }

/-- Three member pods: one names a service, one has an empty label and one has no label. -/
def emptyLabel : ClusterCache :=
  .ofHistory
    [.namespaces (.restarted [{ metadata := { name := some "ns1" } }]),
     .pods (.restarted [labelledPod "a" (some "api"), labelledPod "b" (some ""),
       labelledPod "c" none])]

/-- What is reported for them. -/
def emptyLabelServices : Services :=
  (∅ : Services).insert "api" (.ofPhase .running) |>.insert "" (.ofPhase .running)

theorem reachable_emptyLabel : emptyLabel.Reachable := .ofHistory _

theorem sandboxStatus_emptyLabel :
    sandboxStatus {} emptyLabel "ns1" = .ok (.running emptyLabelServices) := by
  have hnamespace : emptyLabel.namespaces.store.contents ⟨none, "ns1"⟩ =
      some { metadata := { name := some "ns1" } } := by decide +kernel
  have hreported : reported {} emptyLabel "ns1" = emptyLabelServices := by
    have hpods := reachable_emptyLabel.consistent.1
    rw [reported, byName_of_ordered ((hpods.lists_listing "ns1").ordered.filter _)]
    decide +kernel
  rw [sandboxStatus_running (by decide +kernel) hnamespace (by decide) (by decide +kernel),
    hreported]

theorem empty_name_mem_emptyLabel :
    emptyLabel.Reachable ∧
      sandboxStatus {} emptyLabel "ns1" = .ok (.running emptyLabelServices) ∧
      (∃ p, Serves {} emptyLabel "ns1" "" p) ∧
      emptyLabelServices.erase "" =
        servicesOf "blimp.service" (knownEvents emptyLabel "ns1")
          (naming "blimp.service" (memberPods {} emptyLabel "ns1")) := by
  obtain ⟨hmem, herase⟩ :=
    empty_name_mem_iff reachable_emptyLabel {} "ns1" sandboxStatus_emptyLabel
  have hempty : "" ∈ emptyLabelServices := by simp [emptyLabelServices]
  exact ⟨reachable_emptyLabel, sandboxStatus_emptyLabel, (hmem.mp hempty).2, herase rfl⟩

/-- A pod whose service label has no text is reported under the empty name. -/
theorem empty_name_reported :
    emptyLabel.Reachable ∧
      ∃ status, sandboxStatus {} emptyLabel "ns1" = .ok status ∧ "" ∈ status.services :=
  ⟨reachable_emptyLabel, _, sandboxStatus_emptyLabel,
    by simp [emptyLabelServices, SandboxStatus.running]⟩

end SandboxWatch
