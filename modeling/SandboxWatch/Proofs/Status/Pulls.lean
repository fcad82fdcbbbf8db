import Mathlib.Data.List.Induction
import Mathlib.Order.Bounds.Basic
import SandboxWatch.Status.Pull

/-!
# SandboxWatch.Proofs.Status.Pulls

What the events of a namespace tell of the pulls of a container slot. Of all events that count only
the latest start and the latest completion matter, so that neither the order of the events nor
repetitions among them do.

* `Event.Tells`             — an event counts for a slot, with its reason and its time.
* `Latest`                  — the greatest of a set of times, if there is any.
* `PullWindow.latest_scan`  — a scan finds the latest time of each reason.
* `pulls_told_by_latest`    — a pull goes on iff some start is later than every completion.
-/

namespace SandboxWatch

/-! ## Times -/

namespace Instant

instance : LinearOrder Instant where
  le a b := ¬b < a
  lt a b := a < b
  le_refl a := by simp only [lt_def]; omega
  le_trans a b c hab hbc := by simp only [lt_def] at *; omega
  lt_iff_le_not_ge a b := by simp only [lt_def]; omega
  le_antisymm a b hab hba := by
    obtain ⟨s, n⟩ := a
    obtain ⟨s', n'⟩ := b
    simp only [lt_def] at hab hba
    rw [Instant.mk.injEq]
    omega
  le_total a b := by simp only [lt_def]; omega
  toDecidableLE := fun a b => inferInstanceAs (Decidable (¬b < a))
  toDecidableLT := fun a b => inferInstanceAs (Decidable (a < b))
  toDecidableEq := inferInstance

end Instant

/-- The greatest of some times; none if there are none. -/
def Latest (times : Set Instant) : Option Instant → Prop
  | none => times = ∅
  | some t => IsGreatest times t

namespace Latest

variable {times : Set Instant} {o o' : Option Instant} {t : Instant}

theorem unique (h : Latest times o) (h' : Latest times o') : o = o' := by
  cases o with
  | none =>
    cases o' with
    | none => rfl
    | some t' => exact absurd (h ▸ h'.1) (Set.notMem_empty t')
  | some t =>
    cases o' with
    | none => exact absurd (h' ▸ h.1) (Set.notMem_empty t)
    | some t' => exact congrArg some (h.unique h')

theorem later (h : Latest times o) (t : Instant) :
    Latest (insert t times) (PullWindow.later o t) := by
  cases o with
  | none =>
    rw [show times = ∅ from h, insert_empty_eq]
    exact isGreatest_singleton
  | some prev =>
    have hmax : PullWindow.later (some prev) t = some (max t prev) := by
      rw [PullWindow.later, max_comm, max_def_lt]
      split <;> rfl
    rw [hmax]
    exact IsGreatest.insert t h

end Latest

/-! ## Events that count -/

namespace Event

/-- When the event was last seen. A time further down counts if those above it are missing. -/
inductive SeenAt (e : Event) (t : Instant) : Prop where
  | last : e.lastTimestamp = some t → SeenAt e t
  | event : e.lastTimestamp = none → e.eventTime = some t → SeenAt e t
  | first : e.lastTimestamp = none → e.eventTime = none → e.firstTimestamp = some t → SeenAt e t

/-- The event is about the pod and the slot of the target, has the given reason, and was last seen
at the given time. -/
structure Tells (e : Event) (target : PullTarget) (reason : String) (t : Instant) : Prop where
  pod : e.involved.kind = some "Pod" ∧ e.involved.ns = some target.ns ∧
    e.involved.name = some target.pod
  slot : e.involved.fieldPath = some target.fieldPath
  because : e.reason = some reason
  time : e.SeenAt t

variable {e : Event} {target : PullTarget} {reason reason' : String} {t t' : Instant}

theorem time?_eq_some_iff : e.time? = some t ↔ e.SeenAt t := by
  unfold time?
  constructor
  · intro h
    split at h
    · rename_i hlast
      exact .last (hlast.trans h)
    · rename_i hlast
      split at h
      · rename_i hevent
        exact .event hlast (hevent.trans h)
      · rename_i hevent
        exact .first hlast hevent h
  · rintro (h | ⟨h, h'⟩ | ⟨h, h', h''⟩)
    · rw [h]
    · rw [h, h']
    · rw [h, h', h'']

theorem tells_iff :
    e.Tells target reason t ↔
      target.isSubjectOf e = true ∧ e.time? = some t ∧ e.reason = some reason := by
  rw [time?_eq_some_iff, PullTarget.isSubjectOf, decide_eq_true_iff]
  constructor
  · rintro ⟨⟨hkind, hns, hname⟩, hslot, hreason, htime⟩
    exact ⟨⟨hkind, hns, hname, hslot⟩, htime, hreason⟩
  · rintro ⟨⟨hkind, hns, hname, hslot⟩, htime, hreason⟩
    exact ⟨⟨hkind, hns, hname⟩, hslot, hreason, htime⟩

theorem Tells.unique (h : e.Tells target reason t) (h' : e.Tells target reason' t') :
    reason = reason' ∧ t = t' := by
  obtain ⟨_, ht, hr⟩ := tells_iff.mp h
  obtain ⟨_, ht', hr'⟩ := tells_iff.mp h'
  exact ⟨Option.some.inj (hr.symm.trans hr'), Option.some.inj (ht.symm.trans ht')⟩

/-- The times at which the events tell of the target, for the given reason. -/
def times (events : List Event) (target : PullTarget) (reason : String) : Set Instant :=
  {t | ∃ e ∈ events, e.Tells target reason t}

theorem times_nil : times [] target reason = ∅ := by
  simp [times]

theorem times_concat_of_tells {events : List Event} (h : e.Tells target reason t) :
    times (events ++ [e]) target reason = insert t (times events target reason) := by
  ext t'
  simp only [times, List.mem_append, List.mem_singleton, Set.mem_ofPred_eq, Set.mem_insert_iff]
  constructor
  · rintro ⟨e', he' | rfl, h'⟩
    · exact .inr ⟨e', he', h'⟩
    · exact .inl (h'.unique h).2
  · rintro (rfl | ⟨e', he', h'⟩)
    · exact ⟨e, .inr rfl, h⟩
    · exact ⟨e', .inl he', h'⟩

theorem times_concat_of_not_tells {events : List Event} (h : ∀ t, ¬e.Tells target reason t) :
    times (events ++ [e]) target reason = times events target reason := by
  ext t'
  simp only [times, List.mem_append, List.mem_singleton, Set.mem_ofPred_eq]
  constructor
  · rintro ⟨e', he' | rfl, h'⟩
    · exact ⟨e', he', h'⟩
    · exact absurd h' (h t')
  · rintro ⟨e', he', h'⟩
    exact ⟨e', .inl he', h'⟩

theorem times_congr {events events' : List Event}
    (h : ∀ e t, e.Tells target reason t → (e ∈ events' ↔ e ∈ events)) :
    times events' target reason = times events target reason := by
  ext t
  exact exists_congr fun e => and_congr_left fun htells => h e t htells

end Event

/-! ## The scan -/

namespace PullWindow

variable {target : PullTarget} {w : PullWindow} {e : Event}

/-- An event is a start, a completion, or nothing to the target. -/
theorem note_cases (target : PullTarget) (w : PullWindow) (e : Event) :
    (∃ t, e.Tells target "Pulling" t ∧
        note target w e = { w with started := later w.started t }) ∨
      (∃ t, e.Tells target "Pulled" t ∧
        note target w e = { w with completed := later w.completed t }) ∨
      (∀ t, ¬e.Tells target "Pulling" t) ∧ (∀ t, ¬e.Tells target "Pulled" t) ∧
        note target w e = w := by
  simp only [Event.tells_iff, note]
  cases target.isSubjectOf e with
  | false => exact .inr (.inr ⟨by simp, by simp, rfl⟩)
  | true =>
    cases e.time? with
    | none => exact .inr (.inr ⟨by simp, by simp, rfl⟩)
    | some t =>
      by_cases hstart : e.reason = some "Pulling"
      · exact .inl ⟨t, ⟨rfl, rfl, hstart⟩, by simp [hstart]⟩
      · by_cases hend : e.reason = some "Pulled"
        · exact .inr (.inl ⟨t, ⟨rfl, rfl, hend⟩, by simp [hend]⟩)
        · exact .inr (.inr ⟨by simp [hstart], by simp [hend], by simp [hstart, hend]⟩)

theorem scan_concat (events : List Event) (e : Event) (target : PullTarget) :
    scan (events ++ [e]) target = note target (scan events target) e := by
  rw [scan, List.foldl_append]
  rfl

/-- By induction on the events, the last of them first: it is the only one that the final step of
the scan looks at. -/
theorem latest_scan (events : List Event) (target : PullTarget) :
    Latest (Event.times events target "Pulling") (scan events target).started ∧
      Latest (Event.times events target "Pulled") (scan events target).completed := by
  induction events using List.reverseRecOn with
  | nil => exact ⟨Event.times_nil, Event.times_nil⟩
  | append_singleton events e ih =>
    obtain ⟨hstarted, hcompleted⟩ := ih
    rw [scan_concat]
    obtain ⟨t, htells, hnote⟩ | ⟨t, htells, hnote⟩ | ⟨hstart, hend, hnote⟩ :=
      note_cases target (scan events target) e
    · have hend : ∀ t', ¬e.Tells target "Pulled" t' := fun t' h =>
        absurd (htells.unique h).1 (by decide)
      rw [hnote, Event.times_concat_of_tells htells, Event.times_concat_of_not_tells hend]
      exact ⟨hstarted.later t, hcompleted⟩
    · have hstart : ∀ t', ¬e.Tells target "Pulling" t' := fun t' h =>
        absurd (htells.unique h).1 (by decide)
      rw [hnote, Event.times_concat_of_tells htells, Event.times_concat_of_not_tells hstart]
      exact ⟨hstarted, hcompleted.later t⟩
    · rw [hnote, Event.times_concat_of_not_tells hstart, Event.times_concat_of_not_tells hend]
      exact ⟨hstarted, hcompleted⟩

/-- Events that do not count for the target may come and go. -/
theorem scan_congr {events events' : List Event}
    (hstart : ∀ e t, e.Tells target "Pulling" t → (e ∈ events' ↔ e ∈ events))
    (hend : ∀ e t, e.Tells target "Pulled" t → (e ∈ events' ↔ e ∈ events)) :
    scan events' target = scan events target := by
  obtain ⟨hstarted, hcompleted⟩ := latest_scan events target
  obtain ⟨hstarted', hcompleted'⟩ := latest_scan events' target
  rw [Event.times_congr hstart] at hstarted'
  rw [Event.times_congr hend] at hcompleted'
  rw [PullWindow.mk.injEq]
  exact ⟨hstarted'.unique hstarted, hcompleted'.unique hcompleted⟩

theorem inProgress_iff {starts ends : Set Instant} (hs : Latest starts w.started)
    (he : Latest ends w.completed) :
    w.inProgress = true ↔ ∃ t ∈ starts, ∀ t' ∈ ends, t' < t := by
  obtain ⟨started, completed⟩ := w
  cases started with
  | none => simp [inProgress, show starts = ∅ from hs]
  | some started =>
    cases completed with
    | none =>
      rw [show ends = ∅ from he]
      exact ⟨fun _ => ⟨started, hs.1, fun _ h => absurd h (Set.notMem_empty _)⟩, fun _ => rfl⟩
    | some completed =>
      rw [inProgress, decide_eq_true_iff]
      constructor
      · intro hlt
        exact ⟨started, hs.1, fun t' ht' => lt_of_le_of_lt (he.2 ht') hlt⟩
      · rintro ⟨t, ht, hall⟩
        exact lt_of_lt_of_le (hall completed he.1) (hs.2 ht)

end PullWindow

/-- A scan finds the latest start and the latest completion among the events that count. A pull goes
on iff there is a start that is later than every completion. Which events there are decides, not
their order nor how often each of them comes. -/
theorem pulls_told_by_latest (events : List Event) (target : PullTarget) :
    Latest {t | ∃ e ∈ events, e.Tells target "Pulling" t} (PullWindow.scan events target).started ∧
      Latest {t | ∃ e ∈ events, e.Tells target "Pulled" t}
        (PullWindow.scan events target).completed ∧
      (isPulling events target = true ↔ ∃ e ∈ events, ∃ t, e.Tells target "Pulling" t ∧
        ∀ e' ∈ events, ∀ t', e'.Tells target "Pulled" t' → t' < t) ∧
      ∀ events', (∀ e, e ∈ events' ↔ e ∈ events) →
        PullWindow.scan events' target = PullWindow.scan events target ∧
          isPulling events' target = isPulling events target := by
  obtain ⟨hstarted, hcompleted⟩ := PullWindow.latest_scan events target
  refine ⟨hstarted, hcompleted, ?_, fun events' h => ?_⟩
  · rw [isPulling, PullWindow.inProgress_iff hstarted hcompleted]
    constructor
    · rintro ⟨t, ⟨e, he, htells⟩, hall⟩
      exact ⟨e, he, t, htells, fun e' he' t' h' => hall t' ⟨e', he', h'⟩⟩
    · rintro ⟨e, he, t, htells, hall⟩
      exact ⟨t, ⟨e, he, htells⟩, fun t' ⟨e', he', h'⟩ => hall e' he' t' h'⟩
  · have hscan : PullWindow.scan events' target = PullWindow.scan events target :=
      PullWindow.scan_congr (fun e _ _ => h e) fun e _ _ => h e
    exact ⟨hscan, by rw [isPulling, isPulling, hscan]⟩

def webSlot : PullTarget := { ns := "ns1", pod := "web", fieldPath := "spec.containers\x7bweb\x7d" }

/-- An event about the slot, with a time if there is one. -/
def pullEvent (reason : String) (seconds : Option Int) : Event where
  involved :=
    { kind := some "Pod", ns := some "ns1", name := some "web", fieldPath := webSlot.fieldPath }
  reason := some reason
  lastTimestamp := seconds.map fun s => ⟨s, 0⟩

/-- A pull has ended, and a new one has begun. -/
def repulled : List Event :=
  [pullEvent "Pulling" (some 10), pullEvent "Pulled" (some 20), pullEvent "Pulled" none,
   pullEvent "Pulling" (some 30)]

/-- The same events in another order, one of them three times. -/
def repulledShuffled : List Event :=
  [pullEvent "Pulling" (some 30), pullEvent "Pulled" none, pullEvent "Pulling" (some 30),
   pullEvent "Pulling" (some 10), pullEvent "Pulling" (some 30), pullEvent "Pulled" (some 20)]

theorem pulls_told_by_latest_repulled :
    (∀ e, e ∈ repulledShuffled ↔ e ∈ repulled) ∧ isPulling repulled webSlot = true ∧
      PullWindow.scan repulledShuffled webSlot = PullWindow.scan repulled webSlot ∧
      isPulling repulledShuffled webSlot = isPulling repulled webSlot := by
  have hsame : ∀ e, e ∈ repulledShuffled ↔ e ∈ repulled := by
    intro e
    simp only [repulledShuffled, repulled, List.mem_cons, List.not_mem_nil, or_false]
    tauto
  obtain ⟨_, _, hpulling, hshuffled⟩ := pulls_told_by_latest repulled webSlot
  refine ⟨hsame, hpulling.mpr ⟨pullEvent "Pulling" (some 30), by simp [repulled], ⟨30, 0⟩,
    ⟨⟨rfl, rfl, rfl⟩, rfl, rfl, .last rfl⟩, fun e he t htells => ?_⟩, hshuffled _ hsame⟩
  have htime := (Event.tells_iff.mp htells).2.1
  simp only [repulled, List.mem_cons, List.not_mem_nil, or_false] at he
  obtain rfl | rfl | rfl | rfl := he
  · exact absurd htells.because (by decide)
  · cases htime
    decide
  · cases htime
  · exact absurd htells.because (by decide)

end SandboxWatch
