import SandboxWatch.Proofs.Registry.Subscriptions

/-!
# SandboxWatch.Proofs.Registry.Actions

Everything that may happen to a registry, one action at a time, and what it leaves alone.

* `Registry.Action`, `perform?` — the actions, those of subscribers and those of announcers.
* `Undisturbed.of_perform?`     — whatever others do, a subscriber keeps listening and keeps its
  signal, and it is not registered a second time.
-/

namespace SandboxWatch
namespace Registry

inductive Action where
  | watch (ns : String)
  | notify (ns : String)
  | remove (ns : String) (id : WatchId)
  /-- A subscriber takes its signal, or finds that there is none. -/
  | take (id : WatchId)
  | drop (id : WatchId)
  | release (id : WatchId)
  | cleanup (id : WatchId)
deriving DecidableEq, Repr

/-- The registry after an action; `none` when the subscriber is in no position to act. -/
def perform? (r : Registry) : Action → Option Registry
  | .watch ns => some (r.watch ns).1
  | .notify ns => some (r.notify ns)
  | .remove ns id => some (r.remove ns id)
  | .take id =>
    match r.tryChanged? id with
    | some (r', _) => some r'
    | none => none
  | .drop id => r.dropNotifier? id
  | .release id => r.release? id
  | .cleanup id => some (r.runCleanup id)

/-- All actions but those on signals that only the subscriber itself may take. -/
def Action.Spares (id : WatchId) : Action → Prop
  | .take id' => id' ≠ id
  | .drop id' => id' ≠ id
  | _ => True

variable {r r' r'' : Registry} {a : Action} {id id' : WatchId}

/-! ## What an action did -/

theorem tryChanged?_eq_some_iff {found : Bool} :
    r.tryChanged? id = some (r', found) ↔
      ∃ s, r.subscriptions[id]? = some s ∧ s.listening = true ∧ s.pending = found ∧
        r' = r.update id fun s => { s with pending := false } := by
  unfold tryChanged?
  cases r.subscriptions[id]? with
  | none => simp
  | some s => cases hl : s.listening <;> simp [hl, and_comm, eq_comm (a := r')]

theorem dropNotifier?_eq_some_iff :
    r.dropNotifier? id = some r' ↔
      ∃ s, r.subscriptions[id]? = some s ∧ s.listening = true ∧
        r' = r.update id fun s => { s with listening := false } := by
  unfold dropNotifier?
  cases r.subscriptions[id]? with
  | none => simp
  | some s => cases hl : s.listening <;> simp [hl, eq_comm (a := r')]

theorem release?_eq_some_iff :
    r.release? id = some r' ↔
      ∃ s, r.subscriptions[id]? = some s ∧ s.stop = .held ∧
        r' = r.update id fun s => { s with stop := .released } := by
  unfold release?
  cases r.subscriptions[id]? with
  | none => simp
  | some s => by_cases hs : s.stop = .held <;> simp [hs, eq_comm (a := r')]

theorem runCleanup_cases (r : Registry) (id : WatchId) :
    r.runCleanup id = r ∨
      ∃ ns, r.runCleanup id = (r.update id fun s => { s with stop := .cleaned }).remove ns id := by
  unfold runCleanup
  split
  · rename_i s _
    split
    · exact .inr ⟨s.ns, rfl⟩
    · exact .inl rfl
  · exact .inl rfl

/-! ## Left alone -/

/-- It listens as before, and a signal that waited waits still. -/
def Subscription.Kept (s s' : Subscription) : Prop :=
  s'.listening = s.listening ∧ (s.pending = true → s'.pending = true)

/-- How one registry follows another when nobody acts for the subscriber. -/
structure Undisturbed (id : WatchId) (r r' : Registry) : Prop where
  issued : r.issued ≤ r'.issued
  kept {s : Subscription} : r.subscriptions[id]? = some s →
    ∃ s', r'.subscriptions[id]? = some s' ∧ Subscription.Kept s s'
  registered {ns : String} : id ∈ r'.registered ns → id ∈ r.registered ns

namespace Undisturbed

theorem listening (h : Undisturbed id r r') (hl : r.Listening id) : r'.Listening id := by
  obtain ⟨s, hs, hl⟩ := hl
  obtain ⟨s', hs', hkept, _⟩ := h.kept hs
  exact ⟨s', hs', hkept.trans hl⟩

theorem hasSignal (h : Undisturbed id r r') (hp : r.HasSignal id) : r'.HasSignal id := by
  obtain ⟨s, hs, hl, hp⟩ := hp
  obtain ⟨s', hs', hkept, hpending⟩ := h.kept hs
  exact ⟨s', hs', hkept.trans hl, hpending hp⟩

theorem refl (id : WatchId) (r : Registry) : Undisturbed id r r where
  issued := Nat.le_refl _
  kept {s} hs := ⟨s, hs, rfl, fun h => h⟩
  registered h := h

theorem of_update {f : Subscription → Subscription}
    (hf : ∀ s, id' = id → Subscription.Kept s (f s)) : Undisturbed id r (r.update id' f) where
  issued := Nat.le_of_eq (issued_update r id' f).symm
  kept {s} hs := by
    rw [subscriptions_update, hs]
    split
    · rename_i hid
      exact ⟨f s, rfl, hf s hid.symm⟩
    · exact ⟨s, rfl, rfl, fun h => h⟩
  registered h := by rwa [registered_update] at h

theorem of_remove (r : Registry) (ns : String) (id id' : WatchId) :
    Undisturbed id r (r.remove ns id') where
  issued := Nat.le_refl _
  kept {s} hs := ⟨s, hs, rfl, fun h => h⟩
  registered h := (mem_registered_remove.mp h).1

theorem trans (h : Undisturbed id r r') (h' : Undisturbed id r' r'') : Undisturbed id r r'' where
  issued := Nat.le_trans h.issued h'.issued
  kept {s} hs := by
    obtain ⟨s', hs', hl, hp⟩ := h.kept hs
    obtain ⟨s'', hs'', hl', hp'⟩ := h'.kept hs'
    exact ⟨s'', hs'', hl'.trans hl, fun h => hp' (hp h)⟩
  registered hreg := h.registered (h'.registered hreg)

theorem of_watch (ns : String) (hid : id ≤ r.issued) : Undisturbed id r (r.watch ns).1 where
  issued := Nat.le_succ _
  kept {s} hs := by
    refine ⟨s, ?_, rfl, fun h => h⟩
    rw [subscriptions_watch, if_neg (Nat.ne_of_lt (Nat.lt_succ_of_le hid)), hs]
  registered h := by
    rcases mem_registered_watch.mp h with ⟨_, hnew⟩ | hold
    · exact absurd hnew (Nat.ne_of_lt (Nat.lt_succ_of_le hid))
    · exact hold

theorem of_notify (r : Registry) (ns : String) (id : WatchId) : Undisturbed id r (r.notify ns) where
  issued := Nat.le_of_eq (issued_notify r ns).symm
  kept {s} hs := by
    rw [subscriptions_notify, hs]
    split
    · refine ⟨s.signalled, rfl, s.listening_signalled, fun hp => ?_⟩
      rw [Subscription.signalled_of_pending hp, hp]
    · exact ⟨s, rfl, rfl, fun h => h⟩
  registered h := (mem_registered_notify.mp h).1

theorem of_perform? (h : r.perform? a = some r') (ha : a.Spares id) (hid : id ≤ r.issued) :
    Undisturbed id r r' := by
  cases a with
  | watch ns => cases h; exact of_watch ns hid
  | notify ns => cases h; exact of_notify r ns id
  | remove ns id' => cases h; exact of_remove r ns id id'
  | take id' =>
    simp only [perform?] at h
    split at h
    · rename_i htake
      cases h
      obtain ⟨_, _, _, _, rfl⟩ := tryChanged?_eq_some_iff.mp htake
      exact of_update fun s heq => absurd heq ha
    · cases h
  | drop id' =>
    obtain ⟨_, _, _, rfl⟩ := dropNotifier?_eq_some_iff.mp h
    exact of_update fun s heq => absurd heq ha
  | release id' =>
    obtain ⟨_, _, _, rfl⟩ := release?_eq_some_iff.mp h
    exact of_update fun s _ => ⟨rfl, fun h => h⟩
  | cleanup id' =>
    cases h
    -- a cleanup that is due removes a registration, any other comes to nothing
    rcases r.runCleanup_cases id' with hsame | ⟨ns, hremoved⟩
    · rw [hsame]
      exact refl id r
    · rw [hremoved]
      have hcleaned : Undisturbed id r (r.update id' fun s => { s with stop := .cleaned }) :=
        of_update fun s _ => ⟨rfl, fun h => h⟩
      exact hcleaned.trans (of_remove _ ns id id')

end Undisturbed
end Registry
end SandboxWatch
