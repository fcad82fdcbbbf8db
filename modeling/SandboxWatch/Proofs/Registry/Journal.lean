import SandboxWatch.Proofs.Registry.Actions

/-!
# SandboxWatch.Proofs.Registry.Journal

What has happened to a registry, written down entry by entry, the newest first.

* `Entry`, `Step`, `Journal` — an entry says what was done and what was answered.
* `Step.of_perform?`         — whatever is done to a registry makes at most one entry.
-/

namespace SandboxWatch

namespace Registry

/-- One signal for each of the subscriptions, with what became of it. -/
def sendEach (r : Registry) : List WatchId → Registry × List (WatchId × Sent)
  | [] => (r, [])
  | id :: rest =>
    let (r, sent) := r.send id
    let (r, outcomes) := r.sendEach rest
    (r, (id, sent) :: outcomes)

inductive Entry where
  | watched (ns : String) (id : WatchId)
  | notified (ns : String) (outcomes : List (WatchId × Sent))
  | removed (ns : String) (id : WatchId)
  | took (id : WatchId) (found : Bool)
  | dropped (id : WatchId)
  | released (id : WatchId)
  | cleaned (id : WatchId)
deriving DecidableEq, Repr

inductive Step (r : Registry) : Entry → Registry → Prop where
  | watch (ns : String) : Step r (.watched ns (r.watch ns).2) (r.watch ns).1
  | notify (ns : String) : Step r (.notified ns (r.sendEach (r.snapshot ns)).2) (r.notify ns)
  | remove (ns : String) (id : WatchId) : Step r (.removed ns id) (r.remove ns id)
  | take {id : WatchId} {r' : Registry} {found : Bool} :
      r.tryChanged? id = some (r', found) → Step r (.took id found) r'
  | drop {id : WatchId} {r' : Registry} : r.dropNotifier? id = some r' → Step r (.dropped id) r'
  | release {id : WatchId} {r' : Registry} : r.release? id = some r' → Step r (.released id) r'
  | cleanup {id : WatchId} {s : Subscription} :
      r.subscriptions[id]? = some s → s.stop = .released → Step r (.cleaned id) (r.runCleanup id)

inductive Journal : List Entry → Registry → Prop where
  | empty : Journal [] Registry.empty
  | enter {h : List Entry} {e : Entry} {r r' : Registry} :
      Journal h r → Step r e r' → Journal (e :: h) r'

variable {r r' : Registry} {e : Entry} {h : List Entry} {ns : String} {id : WatchId}

/-! ## Answers -/

theorem sendAll_eq_sendEach (r : Registry) (ids : List WatchId) :
    r.sendAll ids =
      ((r.sendEach ids).1, ((r.sendEach ids).2.filter (·.2 = .closed)).map (·.1)) := by
  induction ids generalizing r with
  | nil => rfl
  | cons first rest ih =>
    rw [sendAll, sendEach]
    dsimp only
    rw [ih]
    cases (r.send first).2 <;> rfl

theorem runCleanup_of_released {s : Subscription} (hs : r.subscriptions[id]? = some s)
    (hstop : s.stop = .released) :
    r.runCleanup id = (r.update id fun s => { s with stop := .cleaned }).remove s.ns id := by
  rw [runCleanup, hs]
  exact if_pos hstop

/-- Waiting for a signal is one more way of taking it. -/
theorem Step.of_changed? {w : Wake} (h : r.changed? id = some (r', w)) :
    Step r (.took id (w = .changed)) r' := by
  unfold changed? at h
  split at h
  · rename_i s r₁ found hs htake
    obtain ⟨rfl, rfl⟩ := Prod.mk.inj (Option.some.inj h)
    have hfound : decide ((if found then Wake.changed
        else if r.isRegistered s.ns id then .pending else .closed) = .changed) = found := by
      cases found with
      | true => rfl
      | false => cases r.isRegistered s.ns id <;> rfl
    rw [hfound]
    exact .take htake
  · cases h

/-- Whatever is done to a registry is worth one entry, or comes to nothing. -/
theorem Step.of_perform? {a : Action} (h : r.perform? a = some r') :
    r' = r ∨ ∃ e, Step r e r' := by
  cases a with
  | watch ns => cases h; exact .inr ⟨_, .watch ns⟩
  | notify ns => cases h; exact .inr ⟨_, .notify ns⟩
  | remove ns id => cases h; exact .inr ⟨_, .remove ns id⟩
  | take id =>
    simp only [perform?] at h
    split at h
    · rename_i htake
      cases h
      exact .inr ⟨_, .take htake⟩
    · cases h
  | drop id => exact .inr ⟨_, .drop h⟩
  | release id => exact .inr ⟨_, .release h⟩
  | cleanup id =>
    cases h
    cases hs : r.subscriptions[id]? with
    | none => exact .inl (by rw [runCleanup, hs])
    | some s =>
      by_cases hstop : s.stop = .released
      · exact .inr ⟨_, .cleanup hs hstop⟩
      · exact .inl (by rw [runCleanup, hs]; exact if_neg hstop)

end Registry
end SandboxWatch
