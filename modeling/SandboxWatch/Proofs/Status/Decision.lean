import SandboxWatch.Status.Classify

/-!
# SandboxWatch.Proofs.Status.Decision

The status of a service as a table over its pod. The rows are read from the top: an init container
that holds up the boot, the state of the only main container, the phase of the pod.

* `Pod.HeldUpBy`, `Pod.RunsOnly` — the containers that the rows look at.
* `InitRow`, `PhaseRow`          — the names of init containers and the phases of pods, row by row.
* `Decided`                      — the table.
* `decided_classify`, `Decided.classify_eq` — the status is in the table, and nothing else is.
-/

namespace SandboxWatch

/-! ## What the rows look at -/

namespace Container

def TerminatedWith (c : Container) (t : Terminated) : Prop :=
  ∃ s, c.state = some s ∧ s.terminated = some t

def WaitsWith (c : Container) (w : Waiting) : Prop :=
  ∃ s, c.state = some s ∧ s.waiting = some w

/-- It has terminated, and its reason is that the work is done. -/
def Completed (c : Container) : Prop := ∃ t, c.TerminatedWith t ∧ t.reason = some "Completed"

/-- It waits for an image that cannot be pulled. -/
def LacksImage (c : Container) : Prop :=
  ∃ w, c.WaitsWith w ∧ (w.reason = some "ErrImagePull" ∨ w.reason = some "ImagePullBackOff")

end Container

namespace Pod

/-- All init containers before this one have completed, and this one has not. -/
def HeldUpBy (p : Pod) (c : Container) : Prop :=
  ∃ s before after, p.status = some s ∧ s.initContainers = some (before ++ c :: after) ∧
    (∀ b ∈ before, b.Completed) ∧ ¬c.Completed

/-- The pod has exactly one main container, and its state is known. -/
def RunsOnly (p : Pod) (c : Container) (state : ContainerState) : Prop :=
  ∃ s, p.status = some s ∧ s.containers = some [c] ∧ c.state = some state

/-- An image is being pulled for the slot with the given field path. -/
def Pulls (p : Pod) (events : List Event) (fieldPath : String) : Prop :=
  isPulling events
    { ns := p.metadata.ns.getD "", pod := p.metadata.name.getD "", fieldPath } = true

end Pod

/-- The phase of a service whose boot is held up by the init container of that name. -/
inductive InitRow : String → ServicePhase → Prop where
  | copyBusybox : InitRow "copy-busybox" .initializingVolumes
  | copyVcp : InitRow "copy-vcp" .initializingVolumes
  | volume : InitRow "initialize-volume-from-image" .initializingVolumes
  | dependsOn : InitRow "wait-depends-on" .waitDependsOn
  | initialSync : InitRow "wait-initial-sync" .waitSyncBind
  | other {name : String} :
      name ≠ "copy-busybox" → name ≠ "copy-vcp" → name ≠ "initialize-volume-from-image" →
      name ≠ "wait-depends-on" → name ≠ "wait-initial-sync" → InitRow name .unknown

/-- The phase of a service that only the phase of its pod is known of. -/
inductive PhaseRow : Option String → ServicePhase → Prop where
  | running : PhaseRow (some "Running") .running
  | pending : PhaseRow (some "Pending") .pending
  | succeeded : PhaseRow (some "Succeeded") .exited
  | failed : PhaseRow (some "Failed") .exited
  | other {phase : Option String} :
      phase ≠ some "Running" → phase ≠ some "Pending" → phase ≠ some "Succeeded" →
      phase ≠ some "Failed" → PhaseRow phase .unknown

/-! ## The table -/

inductive Decided (p : Pod) (events : List Event) : ServiceStatus → Prop where
  | initFailed {c : Container} {t : Terminated} {phase : ServicePhase} :
      p.HeldUpBy c → c.TerminatedWith t → InitRow c.name phase →
      Decided p events
        { phase
          message := some ("Unexpected system error: " ++ t.message.getD "")
          hasStarted := false }
  | initLacksImage {c : Container} :
      p.HeldUpBy c → (∀ t, ¬c.TerminatedWith t) → c.name = "initialize-volume-from-image" →
      c.LacksImage →
      Decided p events
        { phase := .pending
          message := some
            "Failed to pull image. Make sure that the image exists, and that Blimp has access to it."
          hasStarted := false }
  | initPulls {c : Container} :
      p.HeldUpBy c → (∀ t, ¬c.TerminatedWith t) → c.name = "initialize-volume-from-image" →
      ¬c.LacksImage → p.Pulls events "spec.initContainers\x7binitialize-volume-from-image\x7d" →
      Decided p events { phase := .pending, message := some "Pulling image", hasStarted := false }
  | initWorks {c : Container} {phase : ServicePhase} :
      p.HeldUpBy c → (∀ t, ¬c.TerminatedWith t) →
      (c.name = "initialize-volume-from-image" → ¬c.LacksImage ∧
        ¬p.Pulls events "spec.initContainers\x7binitialize-volume-from-image\x7d") →
      InitRow c.name phase →
      Decided p events { phase, message := none, hasStarted := false }
  | runs {c : Container} {s : ContainerState} :
      (∀ b, ¬p.HeldUpBy b) → p.RunsOnly c s → s.running = true →
      Decided p events
        { phase := if c.ready then .running else .unhealthy, message := none, hasStarted := true }
  | lacksImage {c : Container} {s : ContainerState} :
      (∀ b, ¬p.HeldUpBy b) → p.RunsOnly c s → s.running = false → c.LacksImage →
      Decided p events
        { phase := .pending
          message := some
            "Failed to pull image. Make sure that the image exists, and that Blimp has access to it."
          hasStarted := false }
  | pulls {c : Container} {s : ContainerState} {w : Waiting} :
      (∀ b, ¬p.HeldUpBy b) → p.RunsOnly c s → s.running = false → s.waiting = some w →
      ¬c.LacksImage → p.Pulls events ("spec.containers\x7b" ++ c.name ++ "\x7d") →
      Decided p events
        { phase := .pending, message := some "Pulling image", hasStarted := 0 < c.restartCount }
  | waits {c : Container} {s : ContainerState} {w : Waiting} :
      (∀ b, ¬p.HeldUpBy b) → p.RunsOnly c s → s.running = false → s.waiting = some w →
      ¬c.LacksImage → ¬p.Pulls events ("spec.containers\x7b" ++ c.name ++ "\x7d") →
      Decided p events
        { phase := .pending, message := w.message, hasStarted := 0 < c.restartCount }
  | exited {c : Container} {s : ContainerState} {t : Terminated} :
      (∀ b, ¬p.HeldUpBy b) → p.RunsOnly c s → s.running = false → s.waiting = none →
      s.terminated = some t →
      Decided p events { phase := .exited, message := t.message, hasStarted := true }
  | byPhase {phase : ServicePhase} :
      (∀ b, ¬p.HeldUpBy b) →
      (∀ c s, p.RunsOnly c s → s.running = false ∧ s.waiting = none ∧ s.terminated = none) →
      PhaseRow p.phase? phase →
      Decided p events { phase, message := none, hasStarted := false }

/-! ## Reading a pod -/

namespace Container

variable {c : Container}

theorem terminated?_eq_some_iff {t : Terminated} :
    c.terminated? = some t ↔ c.TerminatedWith t := by
  unfold terminated? TerminatedWith
  cases c.state <;> simp

theorem terminated?_eq_none_iff : c.terminated? = none ↔ ∀ t, ¬c.TerminatedWith t := by
  simp only [← terminated?_eq_some_iff, Option.eq_none_iff_forall_ne_some, ne_eq]

theorem waiting?_eq_some_iff {w : Waiting} : c.waiting? = some w ↔ c.WaitsWith w := by
  unfold waiting? WaitsWith
  cases c.state <;> simp

theorem isCompleted_iff : c.isCompleted = true ↔ c.Completed := by
  unfold isCompleted Completed
  simp only [← terminated?_eq_some_iff]
  cases c.terminated? <;> simp

theorem isPullFailure_iff : c.isPullFailure = true ↔ c.LacksImage := by
  unfold isPullFailure LacksImage
  simp only [← waiting?_eq_some_iff]
  cases c.waiting? <;> simp

end Container

namespace Pod

variable {p : Pod} {c : Container}

theorem initContainers_split_iff {before after : List Container} :
    p.initContainers = before ++ c :: after ↔
      ∃ s, p.status = some s ∧ s.initContainers = some (before ++ c :: after) := by
  unfold initContainers
  cases p.status with
  | none => simp
  | some s => cases hi : s.initContainers <;> simp [hi]

theorem blocker?_eq_some_iff : p.blocker? = some c ↔ p.HeldUpBy c := by
  have hopen : (!c.isCompleted) = true ↔ ¬c.Completed := by
    rw [Bool.not_eq_true', ← Bool.not_eq_true, Container.isCompleted_iff]
  rw [blocker?, List.find?_eq_some_iff_append, hopen]
  simp only [Bool.not_not, Container.isCompleted_iff, initContainers_split_iff]
  constructor
  · rintro ⟨hc, before, after, ⟨s, hs, hinits⟩, hbefore⟩
    exact ⟨s, before, after, hs, hinits, hbefore, hc⟩
  · rintro ⟨s, before, after, hs, hinits, hbefore, hc⟩
    exact ⟨hc, before, after, ⟨s, hs, hinits⟩, hbefore⟩

theorem blocker?_eq_none_iff : p.blocker? = none ↔ ∀ c, ¬p.HeldUpBy c := by
  simp only [← blocker?_eq_some_iff, Option.eq_none_iff_forall_ne_some, ne_eq]

theorem mainContainer?_eq_some_iff :
    p.mainContainer? = some c ↔ ∃ s, p.status = some s ∧ s.containers = some [c] := by
  unfold mainContainer?
  cases p.status with
  | none => simp
  | some s =>
    dsimp only
    split
    · rename_i heq
      simp [heq]
    · rename_i hne
      simp only [reduceCtorEq, false_iff, Option.some.injEq, exists_eq_left']
      exact hne c

theorem pulls_initSlot_iff {events : List Event} :
    isPulling events (p.slot (initContainerPath volumeInitContainer)) = true ↔
      p.Pulls events "spec.initContainers\x7binitialize-volume-from-image\x7d" := by
  have hpath : initContainerPath volumeInitContainer =
      "spec.initContainers\x7binitialize-volume-from-image\x7d" := by decide +kernel
  rw [hpath]
  rfl

theorem pulls_mainSlot_iff {events : List Event} {name : String} :
    isPulling events (p.slot (containerPath name)) = true ↔
      p.Pulls events ("spec.containers\x7b" ++ name ++ "\x7d") := Iff.rfl

end Pod

/-! ## Rule by rule -/

variable {p : Pod} {events : List Event} {c : Container}

theorem classify_of_heldUpBy (hc : p.HeldUpBy c) :
    classify p events = blockedStatus p events c := by
  rw [classify, initContainerRule, Pod.blocker?_eq_some_iff.mpr hc]
  rfl

theorem classify_of_not_heldUp (h : ∀ c, ¬p.HeldUpBy c) :
    classify p events = (mainContainerRule p events).getD (podPhaseRule p) := by
  rw [classify, initContainerRule, Pod.blocker?_eq_none_iff.mpr h, Option.map_none]
  cases mainContainerRule p events <;> rfl

theorem mainContainerRule_of_runsOnly {s : ContainerState} (h : p.RunsOnly c s) :
    mainContainerRule p events =
      if s.running then
        some ((ServiceStatus.ofPhase (if c.ready then .running else .unhealthy)).started true)
      else
        match s.waiting with
        | some w => some (waitingStatus p events c w)
        | none =>
          match s.terminated with
          | some t => some { phase := .exited, message := t.message, hasStarted := true }
          | none => none := by
  obtain ⟨status, hs, hcs, hstate⟩ := h
  rw [mainContainerRule, Pod.mainContainer?_eq_some_iff.mpr ⟨status, hs, hcs⟩]
  cases c
  subst hstate
  rfl

/-- Where the only main container tells nothing, or there is none, the rule passes. -/
theorem mainContainerRule_eq_none
    (h : ∀ c s, p.RunsOnly c s → s.running = false ∧ s.waiting = none ∧ s.terminated = none) :
    mainContainerRule p events = none := by
  cases hm : p.mainContainer? with
  | none => rw [mainContainerRule, hm]
  | some c =>
    cases hstate : c.state with
    | none => rw [mainContainerRule, hm]; simp only [hstate]
    | some s =>
      obtain ⟨status, hs, hcs⟩ := Pod.mainContainer?_eq_some_iff.mp hm
      have hruns : p.RunsOnly c s := ⟨status, hs, hcs, hstate⟩
      obtain ⟨hrunning, hwaiting, hterminated⟩ := h c s hruns
      rw [mainContainerRule_of_runsOnly hruns, hrunning, hwaiting, hterminated]
      rfl

theorem initRow_iff {name : String} {phase : ServicePhase} :
    InitRow name phase ↔ initContainerPhase name = phase := by
  unfold initContainerPhase volumeInitContainer
  constructor
  · intro h
    cases h with
    | other h₁ h₂ h₃ h₄ h₅ => rw [if_neg (by simp [h₁, h₂, h₃]), if_neg h₄, if_neg h₅]
    | _ => rfl
  · rintro rfl
    split
    · rename_i h
      obtain rfl | rfl | rfl := h
      · exact .copyBusybox
      · exact .copyVcp
      · exact .volume
    · rename_i h
      obtain ⟨h₁, h₂, h₃⟩ : name ≠ "copy-busybox" ∧ name ≠ "copy-vcp" ∧
          name ≠ "initialize-volume-from-image" := by simpa only [not_or] using h
      split
      · rename_i h₄
        exact h₄ ▸ .dependsOn
      · rename_i h₄
        split
        · rename_i h₅
          exact h₅ ▸ .initialSync
        · rename_i h₅
          exact .other h₁ h₂ h₃ h₄ h₅

theorem phaseRow_iff {phase : ServicePhase} :
    PhaseRow p.phase? phase ↔
      podPhaseRule p = { phase, message := none, hasStarted := false } := by
  unfold podPhaseRule ServiceStatus.ofPhase
  constructor
  · intro h
    generalize p.phase? = o at h
    cases h with
    | other h₁ h₂ h₃ h₄ => split <;> first | rfl | contradiction
    | _ => rfl
  · intro h
    injection h with h
    subst h
    split
    · rename_i h; rw [h]; exact .running
    · rename_i h; rw [h]; exact .pending
    · rename_i h; rw [h]; exact .succeeded
    · rename_i h; rw [h]; exact .failed
    · rename_i h₁ h₂ h₃ h₄; exact .other h₁ h₂ h₃ h₄

/-! ## The status is in the table -/

theorem decided_blockedStatus (hc : p.HeldUpBy c) :
    Decided p events (blockedStatus p events c) := by
  have hrow : InitRow c.name (initContainerPhase c.name) := initRow_iff.mpr rfl
  unfold blockedStatus
  cases ht : c.terminated? with
  | some t => exact .initFailed hc (Container.terminated?_eq_some_iff.mp ht) hrow
  | none =>
    have ht : ∀ t, ¬c.TerminatedWith t := Container.terminated?_eq_none_iff.mp ht
    dsimp only
    split
    · rename_i hname
      split
      · rename_i himage
        exact .initLacksImage hc ht hname (Container.isPullFailure_iff.mp himage)
      · rename_i himage
        have himage : ¬c.LacksImage := mt Container.isPullFailure_iff.mpr himage
        rw [hname]
        split
        · rename_i hpulls
          exact .initPulls hc ht hname himage (Pod.pulls_initSlot_iff.mp hpulls)
        · rename_i hpulls
          rw [← hname]
          exact .initWorks hc ht (fun _ => ⟨himage, mt Pod.pulls_initSlot_iff.mpr hpulls⟩) hrow
    · rename_i hname
      exact .initWorks hc ht (fun h => absurd h hname) hrow

theorem decided_waitingStatus (h : ∀ b, ¬p.HeldUpBy b) {s : ContainerState} {w : Waiting}
    (hc : p.RunsOnly c s) (hrunning : s.running = false) (hw : s.waiting = some w) :
    Decided p events (waitingStatus p events c w) := by
  unfold waitingStatus
  split
  · rename_i himage
    exact .lacksImage h hc hrunning (Container.isPullFailure_iff.mp himage)
  · rename_i himage
    have himage : ¬c.LacksImage := mt Container.isPullFailure_iff.mpr himage
    dsimp only
    split
    · rename_i hpulls
      exact .pulls h hc hrunning hw himage (Pod.pulls_mainSlot_iff.mp hpulls)
    · rename_i hpulls
      exact .waits h hc hrunning hw himage (mt Pod.pulls_mainSlot_iff.mpr hpulls)

theorem decided_classify (p : Pod) (events : List Event) :
    Decided p events (classify p events) := by
  by_cases hheld : ∃ c, p.HeldUpBy c
  · obtain ⟨c, hc⟩ := hheld
    rw [classify_of_heldUpBy hc]
    exact decided_blockedStatus hc
  · have h : ∀ c, ¬p.HeldUpBy c := fun c hc => hheld ⟨c, hc⟩
    rw [classify_of_not_heldUp h]
    by_cases htells : ∀ c s, p.RunsOnly c s →
        s.running = false ∧ s.waiting = none ∧ s.terminated = none
    · rw [mainContainerRule_eq_none htells, Option.getD_none]
      exact .byPhase h htells (phaseRow_iff.mpr rfl)
    · simp only [Classical.not_forall] at htells
      obtain ⟨c, s, hc, htells⟩ := htells
      rw [mainContainerRule_of_runsOnly hc]
      -- running is asked first, then waiting, then terminated
      cases hrunning : s.running with
      | true => exact .runs h hc hrunning
      | false =>
        cases hwaiting : s.waiting with
        | some w => exact decided_waitingStatus h hc hrunning hwaiting
        | none =>
          cases hterminated : s.terminated with
          | some t => exact .exited h hc hrunning hwaiting hterminated
          | none => exact absurd ⟨hrunning, hwaiting, hterminated⟩ htells

/-! ## The table has no other status -/

theorem blockedStatus_volume (ht : ∀ t, ¬c.TerminatedWith t)
    (hname : c.name = volumeInitContainer) :
    blockedStatus p events c =
      if c.isPullFailure then (ServiceStatus.ofPhase .pending).withMessage pullFailureMessage
      else if isPulling events (p.slot (initContainerPath volumeInitContainer)) then
        (ServiceStatus.ofPhase .pending).withMessage pullingMessage
      else ServiceStatus.ofPhase (initContainerPhase c.name) := by
  rw [blockedStatus, Container.terminated?_eq_none_iff.mpr ht]
  dsimp only
  rw [if_pos hname, hname]

theorem blockedStatus_other (ht : ∀ t, ¬c.TerminatedWith t) (hname : c.name ≠ volumeInitContainer) :
    blockedStatus p events c = ServiceStatus.ofPhase (initContainerPhase c.name) := by
  rw [blockedStatus, Container.terminated?_eq_none_iff.mpr ht]
  exact if_neg hname

theorem Decided.classify_eq {s : ServiceStatus} (h : Decided p events s) :
    classify p events = s := by
  cases h with
  | initFailed hc ht hrow =>
    rw [classify_of_heldUpBy hc, blockedStatus, Container.terminated?_eq_some_iff.mpr ht,
      initRow_iff.mp hrow]
    rfl
  | initLacksImage hc ht hname himage =>
    rw [classify_of_heldUpBy hc, blockedStatus_volume ht hname]
    exact if_pos (Container.isPullFailure_iff.mpr himage)
  | initPulls hc ht hname himage hpulls =>
    rw [classify_of_heldUpBy hc, blockedStatus_volume ht hname,
      if_neg (mt Container.isPullFailure_iff.mp himage)]
    exact if_pos (Pod.pulls_initSlot_iff.mpr hpulls)
  | @initWorks c _ hc ht hvolume hrow =>
    rw [classify_of_heldUpBy hc, ← initRow_iff.mp hrow]
    by_cases hname : c.name = volumeInitContainer
    · obtain ⟨himage, hpulls⟩ := hvolume hname
      rw [blockedStatus_volume ht hname, if_neg (mt Container.isPullFailure_iff.mp himage)]
      exact if_neg (mt Pod.pulls_initSlot_iff.mp hpulls)
    · exact blockedStatus_other ht hname
  | runs h hc hrunning =>
    rw [classify_of_not_heldUp h, mainContainerRule_of_runsOnly hc, hrunning]
    rfl
  | @lacksImage c s h hc hrunning himage =>
    obtain ⟨w, ⟨s', hs', hw⟩, _⟩ := id himage
    obtain ⟨_, _, _, hstate⟩ := id hc
    cases hstate.symm.trans hs'
    rw [classify_of_not_heldUp h, mainContainerRule_of_runsOnly hc, hrunning, hw]
    dsimp only
    rw [waitingStatus, if_pos (Container.isPullFailure_iff.mpr himage)]
    rfl
  | pulls h hc hrunning hw himage hpulls =>
    rw [classify_of_not_heldUp h, mainContainerRule_of_runsOnly hc, hrunning, hw]
    dsimp only
    rw [waitingStatus, if_neg (mt Container.isPullFailure_iff.mp himage),
      if_pos (Pod.pulls_mainSlot_iff.mpr hpulls)]
    rfl
  | waits h hc hrunning hw himage hpulls =>
    rw [classify_of_not_heldUp h, mainContainerRule_of_runsOnly hc, hrunning, hw]
    dsimp only
    rw [waitingStatus, if_neg (mt Container.isPullFailure_iff.mp himage),
      if_neg (mt Pod.pulls_mainSlot_iff.mp hpulls)]
    rfl
  | exited h hc hrunning hwaiting hterminated =>
    rw [classify_of_not_heldUp h, mainContainerRule_of_runsOnly hc, hrunning, hwaiting,
      hterminated]
    rfl
  | byPhase h htells hphase =>
    rw [classify_of_not_heldUp h, mainContainerRule_eq_none htells, Option.getD_none]
    exact phaseRow_iff.mp hphase

/-- Of a pod that is held up, only its name and namespace matter beside the container. -/
theorem classify_congr_of_heldUpBy {q : Pod} (hp : p.HeldUpBy c) (hq : q.HeldUpBy c)
    (hns : q.metadata.ns = p.metadata.ns) (hname : q.metadata.name = p.metadata.name) :
    classify q events = classify p events := by
  have hslot : q.slot = p.slot := by
    funext fieldPath
    rw [Pod.slot, Pod.slot, hns, hname]
  rw [classify_of_heldUpBy hp, classify_of_heldUpBy hq, blockedStatus, blockedStatus, hslot]

theorem hasStarted_of_heldUpBy (hc : p.HeldUpBy c) : (classify p events).hasStarted = false := by
  rw [classify_of_heldUpBy hc, blockedStatus]
  split
  · rfl
  · split
    · split
      · rfl
      · split <;> rfl
    · rfl

/-- The status of a service is what the table says. While an init container holds up the boot, the
service has not started, and neither other containers nor the phase of the pod have a say. -/
theorem classify_iff_decided (p : Pod) (events : List Event) :
    (∀ s, classify p events = s ↔ Decided p events s) ∧
      ∀ c, p.HeldUpBy c → (classify p events).hasStarted = false ∧
        ∀ q : Pod, q.HeldUpBy c → q.metadata.ns = p.metadata.ns →
          q.metadata.name = p.metadata.name → classify q events = classify p events := by
  constructor
  · intro s
    exact ⟨fun h => h ▸ decided_classify p events, Decided.classify_eq⟩
  · intro c hc
    exact ⟨hasStarted_of_heldUpBy hc, fun q hq => classify_congr_of_heldUpBy hc hq⟩

/-- Its image cannot be pulled. -/
def volumeInit : Container where
  name := "initialize-volume-from-image"
  state := some { waiting := some { reason := some "ErrImagePull" } }

/-- The first of two init containers has completed, and the only main container runs. -/
def bootingPod (phase : String) : Pod where
  metadata := { name := some "web", ns := some "ns1" }
  status := some
    { phase := some phase
      initContainers := some
        [{ name := "copy-busybox"
           state := some { terminated := some { reason := some "Completed" } } }, volumeInit]
      containers := some [{ name := "web", state := some { running := true } }] }

theorem heldUpBy_bootingPod (phase : String) : (bootingPod phase).HeldUpBy volumeInit := by
  refine ⟨_, [_], [], rfl, rfl, ?_, ?_⟩
  · intro b hb
    rw [List.mem_singleton.mp hb]
    exact ⟨_, ⟨_, rfl, rfl⟩, rfl⟩
  · rintro ⟨t, ⟨s, hs, ht⟩, _⟩
    cases hs
    cases ht

theorem classify_bootingPod :
    (bootingPod "Pending").HeldUpBy volumeInit ∧ (bootingPod "Running").HeldUpBy volumeInit ∧
      classify (bootingPod "Pending") [] =
        { phase := .pending, message := some pullFailureMessage, hasStarted := false } ∧
      classify (bootingPod "Running") [] = classify (bootingPod "Pending") [] := by
  have hp := heldUpBy_bootingPod "Pending"
  have hr := heldUpBy_bootingPod "Running"
  obtain ⟨htable, hheld⟩ := classify_iff_decided (bootingPod "Pending") []
  refine ⟨hp, hr, (htable _).mpr ?_, (hheld volumeInit hp).2 _ hr rfl rfl⟩
  refine .initLacksImage hp ?_ rfl ⟨_, ⟨_, rfl, rfl⟩, .inl rfl⟩
  rintro t ⟨s, hs, ht⟩
  cases hs
  cases ht

end SandboxWatch
