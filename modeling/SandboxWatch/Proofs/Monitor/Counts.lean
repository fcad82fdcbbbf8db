import SandboxWatch.Monitor.Basic

/-!
# SandboxWatch.Proofs.Monitor.Counts

The counters of the feeds are kept for others to read. Nothing that a monitor does depends on them:
with more counted beforehand, a change does what it does anyway, and as much more is counted
afterwards.

* `FeedCounters.add`, `Monitor.addCounts` — more is counted, and nothing else is different.
* `Monitor.deliver_addCounts`             — one change.
-/

namespace SandboxWatch

def FeedCounters.add (a b : FeedCounters) : FeedCounters where
  events := a.events + b.events
  dropped := a.dropped + b.dropped
  errors := a.errors + b.errors

theorem FeedCounters.add_assoc (a b c : FeedCounters) : (a.add b).add c = a.add (b.add c) := by
  simp only [add, Nat.add_assoc]

def KindCache.addCounts {α : Type} (c : KindCache α) (n : FeedCounters) : KindCache α :=
  { c with counters := c.counters.add n }

def ClusterCache.addCounts (c : ClusterCache) (n : Kind → FeedCounters) : ClusterCache where
  pods := c.pods.addCounts (n .pods)
  events := c.events.addCounts (n .events)
  namespaces := c.namespaces.addCounts (n .namespaces)

/-- As much more has been counted of each kind, and nothing else is different. -/
def Monitor.addCounts (m : Monitor) (n : Kind → FeedCounters) : Monitor :=
  { m with cache := m.cache.addCounts n }

theorem KindCache.apply_addCounts {α : Type} [Resource α] (c : KindCache α) (n : FeedCounters)
    (e : WatchEvent α) : (c.addCounts n).apply e = ((c.apply e).1.addCounts n, (c.apply e).2) := by
  have hshown : (c.addCounts n).shown e = c.shown e := by cases e <;> rfl
  have hcount : (c.addCounts n).count e = (c.count e).addCounts n := by
    rw [count, count, hshown]
    simp only [addCounts, FeedCounters.add, Nat.add_right_comm]
  have htouched : (c.addCounts n).touched e = c.touched e := by rw [touched, touched, hshown]
  rw [apply, apply, hcount, htouched]
  simp only [writeStore?, addCounts]
  cases (c.count e).store.write? e <;> rfl

theorem ClusterCache.apply_addCounts (c : ClusterCache) (n : Kind → FeedCounters)
    (change : Change) :
    (c.addCounts n).apply change = ((c.apply change).1.addCounts n, (c.apply change).2) := by
  cases change with
  | pods e => simp only [apply, addCounts, KindCache.apply_addCounts]
  | events e => simp only [apply, addCounts, KindCache.apply_addCounts]
  | namespaces e => simp only [apply, addCounts, KindCache.apply_addCounts]

namespace Monitor

variable (m : Monitor) (n : Kind → FeedCounters)

theorem isFeedOpen_addCounts (k : Kind) :
    (m.addCounts n).cache.isFeedOpen k = m.cache.isFeedOpen k := by
  cases k <;> rfl

theorem deliver_addCounts (change : Change) :
    (m.addCounts n).deliver change = ((m.deliver change).1.addCounts n, (m.deliver change).2) := by
  rw [deliver, deliver, isFeedOpen_addCounts]
  by_cases hopen : m.cache.isFeedOpen change.kind = true
  · rw [if_pos hopen, if_pos hopen]
    simp only [addCounts, ClusterCache.apply_addCounts]
    obtain ⟨cache, outcome⟩ := m.cache.apply change
    cases outcome <;> rfl
  · rw [if_neg hopen, if_neg hopen]

theorem addCounts_addCounts (n' : Kind → FeedCounters) :
    (m.addCounts n).addCounts n' = m.addCounts fun k => (n k).add (n' k) := by
  simp only [addCounts, ClusterCache.addCounts, KindCache.addCounts, FeedCounters.add_assoc]

theorem addCounts_zero : (m.addCounts fun _ => {}) = m := rfl

end Monitor
end SandboxWatch
