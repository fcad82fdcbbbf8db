import SandboxWatch.Proofs.Status.Decision
import SandboxWatch.Proofs.Status.Pulls

/-!
# SandboxWatch.Proofs.Status.Slots

Which events have a say in the status of a service. A pod has at most one slot whose pulls matter,
and only the events that tell of it do; no event tells of two slots.

* `Pod.DecidingSlot`        — the slot whose pulls the status may depend on.
* `SamePulls`               — two lists of events tell the same of a slot.
* `PullTarget.fieldPath_eq_of_isSubjectOf` — an event names one slot.
* `classify_told_by_slot`   — the status of a service and the events that it depends on.
-/

namespace SandboxWatch

/-! ## Field paths -/

variable {n m : String}

theorem initContainerPath_inj (h : initContainerPath n = initContainerPath m) : n = m := by
  unfold initContainerPath at h
  rw [String.append_left_inj, String.append_right_inj] at h
  exact h

theorem containerPath_inj (h : containerPath n = containerPath m) : n = m := by
  unfold containerPath at h
  rw [String.append_left_inj, String.append_right_inj] at h
  exact h

/-- The two kinds of paths part at their sixth character, whatever the names are. -/
theorem initContainerPath_ne_containerPath (n m : String) :
    initContainerPath n ≠ containerPath m := by
  intro h
  have hinit : "spec.initContainers\x7b".toList =
      "spec.i".toList ++ "nitContainers\x7b".toList := by decide +kernel
  have hmain : "spec.containers\x7b".toList =
      "spec.c".toList ++ "ontainers\x7b".toList := by decide +kernel
  unfold initContainerPath containerPath at h
  have hchars := String.toList_inj.mpr h
  simp only [String.toList_append, hinit, hmain, List.append_assoc] at hchars
  have hlength : "spec.i".toList.length = "spec.c".toList.length := by decide +kernel
  exact absurd (List.append_inj_left hchars hlength) (by decide +kernel)

theorem PullTarget.isSubjectOf_fieldPath {target : PullTarget} {e : Event}
    (h : target.isSubjectOf e = true) : e.involved.fieldPath = some target.fieldPath := by
  rw [isSubjectOf, decide_eq_true_iff] at h
  exact h.2.2.2

/-- An event is about one slot only, whichever pods the slots may be of. -/
theorem PullTarget.fieldPath_eq_of_isSubjectOf {target target' : PullTarget} {e : Event}
    (h : target.isSubjectOf e = true) (h' : target'.isSubjectOf e = true) :
    target.fieldPath = target'.fieldPath :=
  Option.some.inj ((isSubjectOf_fieldPath h).symm.trans (isSubjectOf_fieldPath h'))

/-! ## The deciding slot -/

/-- The slot whose pulls the status of the pod may depend on. -/
inductive Pod.DecidingSlot (p : Pod) : PullTarget → Prop where
  | init {c : Container} :
      p.HeldUpBy c → c.name = "initialize-volume-from-image" →
      p.DecidingSlot (p.slot "spec.initContainers\x7binitialize-volume-from-image\x7d")
  | main {c : Container} {s : PodStatus} :
      (∀ b, ¬p.HeldUpBy b) → p.status = some s → s.containers = some [c] →
      p.DecidingSlot (p.slot ("spec.containers\x7b" ++ c.name ++ "\x7d"))

/-- The event tells of a start or a completion in the slot, with its time. -/
def Event.TellsOf (e : Event) (slot : PullTarget) : Prop :=
  ∃ t, e.Tells slot "Pulling" t ∨ e.Tells slot "Pulled" t

/-- Of the events that tell of the slot, both lists hold the same. -/
def SamePulls (slot : PullTarget) (events events' : List Event) : Prop :=
  ∀ e, e.TellsOf slot → (e ∈ events' ↔ e ∈ events)

variable {p : Pod} {c : Container} {events events' : List Event} {slot slot' : PullTarget}

theorem Pod.DecidingSlot.unique (h : p.DecidingSlot slot) (h' : p.DecidingSlot slot') :
    slot' = slot := by
  cases h with
  | init hc hname =>
    cases h' with
    | init _ _ => rfl
    | main hfree _ _ => exact absurd hc (hfree _)
  | main hfree hs hcs =>
    cases h' with
    | init hc _ => exact absurd hc (hfree _)
    | main _ hs' hcs' =>
      cases hs.symm.trans hs'
      cases hcs.symm.trans hcs'
      rfl

theorem SamePulls.isPulling (h : SamePulls slot events events') :
    isPulling events' slot = isPulling events slot := by
  have hscan : PullWindow.scan events' slot = PullWindow.scan events slot :=
    PullWindow.scan_congr (fun e t ht => h e ⟨t, .inl ht⟩) fun e t ht => h e ⟨t, .inr ht⟩
  rw [SandboxWatch.isPulling, SandboxWatch.isPulling, hscan]

/-! ## The rules -/

theorem blockedStatus_congr
    (h : c.name = volumeInitContainer →
      isPulling events' (p.slot (initContainerPath c.name)) =
        isPulling events (p.slot (initContainerPath c.name))) :
    blockedStatus p events' c = blockedStatus p events c := by
  unfold blockedStatus
  split
  · rfl
  · by_cases hname : c.name = volumeInitContainer
    · rw [h hname]
    · rw [if_neg hname, if_neg hname]

theorem mainContainerRule_congr
    (h : ∀ c, p.mainContainer? = some c →
      isPulling events' (p.slot (containerPath c.name)) =
        isPulling events (p.slot (containerPath c.name))) :
    mainContainerRule p events' = mainContainerRule p events := by
  unfold mainContainerRule
  cases hm : p.mainContainer? with
  | none => rfl
  | some c =>
    have hwaiting : waitingStatus p events' c = waitingStatus p events c := by
      funext w
      rw [waitingStatus, waitingStatus, h c hm]
    dsimp only
    rw [hwaiting]

theorem classify_congr
    (h : ∀ slot, p.DecidingSlot slot → isPulling events' slot = isPulling events slot) :
    classify p events' = classify p events := by
  by_cases hheld : ∃ c, p.HeldUpBy c
  · obtain ⟨c, hc⟩ := hheld
    rw [classify_of_heldUpBy hc, classify_of_heldUpBy hc]
    refine blockedStatus_congr fun hname => ?_
    have hpath : initContainerPath c.name =
        "spec.initContainers\x7binitialize-volume-from-image\x7d" := by
      rw [hname]
      decide +kernel
    rw [hpath]
    exact h _ (.init hc hname)
  · have hfree : ∀ c, ¬p.HeldUpBy c := fun c hc => hheld ⟨c, hc⟩
    rw [classify_of_not_heldUp hfree, classify_of_not_heldUp hfree]
    rw [mainContainerRule_congr fun c hc => ?_]
    obtain ⟨s, hs, hcs⟩ := Pod.mainContainer?_eq_some_iff.mp hc
    exact h _ (.main hfree hs hcs)

/-- A pod has at most one slot whose pulls matter to the status of its service. Two lists that hold
the same events of its pulls lead to the same status, and where there is no such slot all lists do.
No event is about the slot of an init container and that of a main container, nor about the slots
of two containers with different names. -/
theorem classify_told_by_slot (p : Pod) :
    (∀ slot slot', p.DecidingSlot slot → p.DecidingSlot slot' → slot' = slot) ∧
      (∀ slot events events', p.DecidingSlot slot → SamePulls slot events events' →
        classify p events' = classify p events) ∧
      ((∀ slot, ¬p.DecidingSlot slot) →
        ∀ events events', classify p events' = classify p events) ∧
      ∀ (e : Event) (q q' : Pod) (n m : String),
        ¬((q.slot (initContainerPath n)).isSubjectOf e = true ∧
            (q'.slot (containerPath m)).isSubjectOf e = true) ∧
          ((q.slot (initContainerPath n)).isSubjectOf e = true →
            (q'.slot (initContainerPath m)).isSubjectOf e = true → n = m) ∧
          ((q.slot (containerPath n)).isSubjectOf e = true →
            (q'.slot (containerPath m)).isSubjectOf e = true → n = m) := by
  refine ⟨fun _ _ => Pod.DecidingSlot.unique, fun slot events events' hslot hsame => ?_,
    fun hnone events events' => ?_, fun e q q' n m => ⟨?_, fun h h' => ?_, fun h h' => ?_⟩⟩
  · exact classify_congr fun slot' hslot' => hslot.unique hslot' ▸ hsame.isPulling
  · exact classify_congr fun slot hslot => absurd hslot (hnone slot)
  · rintro ⟨h, h'⟩
    exact initContainerPath_ne_containerPath n m (PullTarget.fieldPath_eq_of_isSubjectOf h h')
  · exact initContainerPath_inj (PullTarget.fieldPath_eq_of_isSubjectOf h h')
  · exact containerPath_inj (PullTarget.fieldPath_eq_of_isSubjectOf h h')

/-- Its only container has braces in its name and waits. -/
def bracedPod : Pod where
  metadata := { name := some "web", ns := some "ns1" }
  status := some
    { containers := some [{ name := "a\x7d\x7bb", state := some { waiting := some {} } }] }

def bracedSlot : PullTarget := bracedPod.slot "spec.containers\x7ba\x7d\x7bb\x7d"

/-- An event about the pod and the given slot. -/
def slotEvent (fieldPath : String) (time : Option Instant) : Event where
  involved :=
    { kind := some "Pod", ns := some "ns1", name := some "web", fieldPath := some fieldPath }
  reason := some "Pulling"
  lastTimestamp := time

def bracedPull : Event := slotEvent bracedSlot.fieldPath (some ⟨10, 0⟩)

/-- Among them are events of other slots, and one without a time. -/
def noisyPulls : List Event :=
  [slotEvent "spec.containers\x7ba\x7d" (some ⟨20, 0⟩), bracedPull,
   slotEvent "spec.initContainers\x7ba\x7d\x7bb\x7d" (some ⟨30, 0⟩),
   slotEvent bracedSlot.fieldPath none]

theorem classify_told_by_slot_braced :
    bracedPod.DecidingSlot bracedSlot ∧
      SamePulls bracedSlot [bracedPull] noisyPulls ∧
      classify bracedPod noisyPulls = classify bracedPod [bracedPull] := by
  have hslot : bracedPod.DecidingSlot bracedSlot := by
    refine .main (c := ⟨"a\x7d\x7bb", false, 0, _⟩) ?_ rfl rfl
    rintro b ⟨s, before, after, hs, hinits, _⟩
    cases hs
    cases hinits
  have hsame : SamePulls bracedSlot [bracedPull] noisyPulls := by
    rintro e ⟨t, htells⟩
    have htells : e.involved.fieldPath = some bracedSlot.fieldPath ∧
        e.time? = some t := by
      obtain htells | htells := htells
      · exact ⟨htells.slot, (Event.tells_iff.mp htells).2.1⟩
      · exact ⟨htells.slot, (Event.tells_iff.mp htells).2.1⟩
    simp only [noisyPulls, List.mem_cons, List.not_mem_nil, or_false]
    constructor
    · rintro (rfl | rfl | rfl | rfl)
      · exact absurd htells.1 (by decide +kernel)
      · rfl
      · exact absurd htells.1 (by decide +kernel)
      · exact absurd htells.2 (by simp [Event.time?, slotEvent])
    · exact fun h => .inr (.inl h)
  exact ⟨hslot, hsame, (classify_told_by_slot bracedPod).2.1 _ _ _ hslot hsame⟩

end SandboxWatch
