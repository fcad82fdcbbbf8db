import SandboxWatch.Proofs.Status.Decision

/-!
# SandboxWatch.Proofs.Status.Started

Whether a service is said to have started. It is, once its container has run, and it stays so while
the container waits to be run again, with one exception: a container that waits for an image that
cannot be pulled counts as not started, however often it has run.

* `Pod.HasRun`     — the only main container has run, told from its state and its restarts.
* `Pod.LacksImage` — it waits for an image that cannot be pulled.
* `hasStarted_iff_hasRun` — what a service that is said to have started tells of its pod.
* `restarted_without_image` — a container that was restarted, of a service that has not started.
-/

namespace SandboxWatch

/-- Of several states that are reported at once the running one counts first, then the waiting
one. -/
inductive Container.HasRun (c : Container) (s : ContainerState) : Prop where
  | runs : s.running = true → HasRun c s
  | waits {w : Waiting} :
      s.running = false → s.waiting = some w → 0 < c.restartCount → HasRun c s
  | ended {t : Terminated} :
      s.running = false → s.waiting = none → s.terminated = some t → HasRun c s

namespace Pod

/-- No init container holds up the boot, and the only main container has run. -/
def HasRun (p : Pod) : Prop :=
  (∀ b, ¬p.HeldUpBy b) ∧ ∃ c s, p.RunsOnly c s ∧ c.HasRun s

/-- The only main container waits, and its image cannot be pulled. -/
def LacksImage (p : Pod) : Prop :=
  ∃ c s, p.RunsOnly c s ∧ s.running = false ∧ c.LacksImage

variable {p : Pod} {c c' : Container} {s s' : ContainerState}

theorem RunsOnly.unique (h : p.RunsOnly c s) (h' : p.RunsOnly c' s') : c' = c ∧ s' = s := by
  obtain ⟨status, hstatus, hcontainers, hstate⟩ := h
  obtain ⟨status', hstatus', hcontainers', hstate'⟩ := h'
  cases hstatus.symm.trans hstatus'
  cases hcontainers.symm.trans hcontainers'
  cases hstate.symm.trans hstate'
  exact ⟨rfl, rfl⟩

theorem RunsOnly.hasRun_iff (hc : p.RunsOnly c s) (h : ∀ b, ¬p.HeldUpBy b) :
    p.HasRun ↔ c.HasRun s := by
  constructor
  · rintro ⟨_, c', s', hc', hrun⟩
    obtain ⟨rfl, rfl⟩ := hc.unique hc'
    exact hrun
  · intro hrun
    exact ⟨h, c, s, hc, hrun⟩

theorem RunsOnly.lacksImage_iff (hc : p.RunsOnly c s) :
    p.LacksImage ↔ s.running = false ∧ c.LacksImage := by
  constructor
  · rintro ⟨c', s', hc', himage⟩
    obtain ⟨rfl, rfl⟩ := hc.unique hc'
    exact himage
  · intro himage
    exact ⟨c, s, hc, himage⟩

theorem RunsOnly.not_lacksImage (hc : p.RunsOnly c s) (hwaiting : s.waiting = none) :
    ¬c.LacksImage := by
  rintro ⟨w, ⟨s', hs', hw⟩, _⟩
  obtain ⟨_, _, _, hstate⟩ := hc
  cases hstate.symm.trans hs'
  cases hwaiting.symm.trans hw

theorem HeldUpBy.not_hasRun (hc : p.HeldUpBy c) : ¬p.HasRun := fun h => h.1 c hc

end Pod

variable {p : Pod} {events : List Event} {c : Container} {s : ContainerState}

/-- Of a container that waits, only its restarts tell whether it has run. -/
theorem Container.hasRun_waiting_iff {w : Waiting} (hrunning : s.running = false)
    (hw : s.waiting = some w) : c.HasRun s ↔ 0 < c.restartCount := by
  constructor
  · intro h
    cases h with
    | runs h => cases hrunning.symm.trans h
    | waits _ _ hrestarts => exact hrestarts
    | ended _ h => cases hw.symm.trans h
  · exact .waits hrunning hw

theorem Container.not_hasRun (hrunning : s.running = false) (hwaiting : s.waiting = none)
    (hterminated : s.terminated = none) : ¬c.HasRun s := by
  intro h
  cases h with
  | runs h => cases hrunning.symm.trans h
  | waits _ h => cases hwaiting.symm.trans h
  | ended _ _ h => cases hterminated.symm.trans h

/-- Row by row: the flag of the table is that of the only main container, but for the row of an
image that cannot be pulled. -/
theorem Decided.hasStarted_iff {status : ServiceStatus} (h : Decided p events status) :
    status.hasStarted = true ↔ p.HasRun ∧ ¬p.LacksImage := by
  cases h with
  | initFailed hc => simp [hc.not_hasRun]
  | initLacksImage hc => simp [hc.not_hasRun]
  | initPulls hc => simp [hc.not_hasRun]
  | initWorks hc => simp [hc.not_hasRun]
  | runs h hc hrunning =>
    have hrun := (hc.hasRun_iff h).mpr (.runs hrunning)
    simp [hrun, hc.lacksImage_iff, hrunning]
  | lacksImage h hc hrunning himage => simp [hc.lacksImage_iff, hrunning, himage]
  | pulls h hc hrunning hw himage =>
    simp [hc.hasRun_iff h, hc.lacksImage_iff, Container.hasRun_waiting_iff hrunning hw, himage]
  | waits h hc hrunning hw himage =>
    simp [hc.hasRun_iff h, hc.lacksImage_iff, Container.hasRun_waiting_iff hrunning hw, himage]
  | exited h hc hrunning hwaiting hterminated =>
    have hrun := (hc.hasRun_iff h).mpr (.ended hrunning hwaiting hterminated)
    simp [hrun, hc.lacksImage_iff, hc.not_lacksImage hwaiting]
  | byPhase h htells _ =>
    have hrun : ¬p.HasRun := by
      rintro ⟨_, c, s, hc, hrun⟩
      obtain ⟨hrunning, hwaiting, hterminated⟩ := htells c s hc
      exact Container.not_hasRun hrunning hwaiting hterminated hrun
    simp [hrun]

/-- A service is said to have started exactly if no init container holds up the boot and the only
main container runs, has ended, or waits after a restart, and does not wait for an image that cannot
be pulled. Which pulls are under way does not matter. The exception makes the difference for just
those containers that have run before they came to wait for their image. -/
theorem hasStarted_iff_hasRun (p : Pod) (events : List Event) :
    ((classify p events).hasStarted = true ↔ p.HasRun ∧ ¬p.LacksImage) ∧
      (∀ events', (classify p events').hasStarted = (classify p events).hasStarted) ∧
      (((classify p events).hasStarted = true ↔ p.HasRun) ↔ ¬(p.HasRun ∧ p.LacksImage)) := by
  have hstarted (events : List Event) := (decided_classify p events).hasStarted_iff
  refine ⟨hstarted events, fun events' => ?_, ?_⟩
  · rw [Bool.eq_iff_iff, hstarted, hstarted]
  · rw [hstarted, not_and]
    exact and_iff_left_iff_imp

/-- Its only container was restarted, and now waits for an image that cannot be pulled. -/
def unpullablePod : Pod where
  metadata := { name := some "web", ns := some "ns1" }
  status := some
    { phase := some "Running"
      initContainers := some []
      containers := some
        [{ name := "web"
           restartCount := 3
           state := some { waiting := some { reason := some "ImagePullBackOff" } } }] }

theorem restarted_without_image :
    unpullablePod.HasRun ∧
      classify unpullablePod [] =
        { phase := .pending, message := some pullFailureMessage, hasStarted := false } := by
  have hfree : ∀ b, ¬unpullablePod.HeldUpBy b := Pod.blocker?_eq_none_iff.mp rfl
  have hruns : unpullablePod.RunsOnly
      { name := "web"
        restartCount := 3
        state := some { waiting := some { reason := some "ImagePullBackOff" } } }
      { waiting := some { reason := some "ImagePullBackOff" } } := ⟨_, rfl, rfl, rfl⟩
  refine ⟨⟨hfree, _, _, hruns, .waits rfl rfl (by decide)⟩, ?_⟩
  exact Decided.classify_eq (.lacksImage hfree hruns rfl ⟨_, ⟨_, rfl, rfl⟩, .inr rfl⟩)

end SandboxWatch
