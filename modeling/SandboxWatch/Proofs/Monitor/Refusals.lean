import SandboxWatch.Proofs.Monitor.Loops

/-!
# SandboxWatch.Proofs.Monitor.Refusals

A change that delivers an object without a name is refused, wherever the object stands among others.
It is refused whole: readers and subscribers see nothing of it, and later changes do what they would
have done without it. Only the counters tell that it came.

* `Monitor.AsBefore`    — two monitors answer alike, and their subscribers are the same.
* `Monitor.deliver_nameless` — all that a refused change does.
* `Monitor.deliverAll_named` — a run of changes, and the same run without the refused ones.
* `refused_without_trace` — what is refused, and what is left of it.
-/

namespace SandboxWatch

instance {α : Type} [Resource α] (e : WatchEvent α) : Decidable e.Named :=
  inferInstanceAs (Decidable (∀ o ∈ e.objects, (Resource.metadata o).name ≠ none))

instance : DecidablePred Change.Named
  | .pods e => inferInstanceAs (Decidable e.Named)
  | .events e => inferInstanceAs (Decidable e.Named)
  | .namespaces e => inferInstanceAs (Decidable e.Named)

/-- What is counted when a change comes: one event of its kind, and the objects without a scope that
it shows. -/
def ClusterCache.tally (c : ClusterCache) : Change → Kind → FeedCounters
  | .pods e, .pods => { events := 1, dropped := (c.pods.shown e).countP KindCache.lacksScope }
  | .events e, .events => { events := 1, dropped := (c.events.shown e).countP KindCache.lacksScope }
  | .namespaces e, .namespaces =>
    { events := 1, dropped := (c.namespaces.shown e).countP KindCache.lacksScope }
  | _, _ => {}

namespace Monitor

/-! ## Runs -/

/-- The monitor after a run of changes, one after the other. -/
def deliverAll (m : Monitor) (xs : List Change) : Monitor := xs.foldl (fun m x => (m.deliver x).1) m

/-- The namespaces that a change has been announced to. -/
def told : Except DeliveryError (List String) → List String
  | .ok namespaces => namespaces
  | .error _ => []

/-- The namespaces that a run of changes is announced to, one after the other. -/
def announcements (m : Monitor) : List Change → List String
  | [] => []
  | x :: xs => told (m.deliver x).2 ++ (m.deliver x).1.announcements xs

/-- Every question has the answer that it had, and every subscription is as it was. -/
structure AsBefore (m m' : Monitor) : Prop where
  synced (k : Kind) : m'.cache.isKindSynced k = m.cache.isKindSynced k
  barrier : m'.cache.barrier = m.cache.barrier
  pods (ns : String) : m'.cache.pods.listIn ns = m.cache.pods.listIn ns
  events (ns : String) : m'.cache.events.listIn ns = m.cache.events.listIn ns
  namespaces (ns : String) : m'.cache.namespaces.listIn ns = m.cache.namespaces.listIn ns
  found (name : String) : m'.cache.getNamespace name = m.cache.getNamespace name
  status (ns : String) : m'.status ns = m.status ns
  registry : m'.registry = m.registry

variable {m : Monitor} {x : Change}

theorem AsBefore.of_addCounts (m : Monitor) (n : Kind → FeedCounters) :
    m.AsBefore (m.addCounts n) where
  synced k := by cases k <;> rfl
  barrier := rfl
  pods _ := rfl
  events _ := rfl
  namespaces _ := rfl
  found _ := rfl
  status _ := rfl
  registry := rfl

/-! ## One change -/

theorem deliver_nameless (hopen : m.cache.isFeedOpen x.kind = true) (hn : ¬x.Named) :
    m.deliver x = (m.addCounts (m.cache.tally x), .error (.rejected .unnamedObject)) := by
  rw [deliver, if_pos hopen]
  cases x with
  | pods e => rw [ClusterCache.apply, m.cache.pods.apply_unnamed hn]; rfl
  | events e => rw [ClusterCache.apply, m.cache.events.apply_unnamed hn]; rfl
  | namespaces e => rw [ClusterCache.apply, m.cache.namespaces.apply_unnamed hn]; rfl

theorem deliver_named (hopen : m.cache.isFeedOpen x.kind = true) (hn : x.Named) :
    ∃ namespaces, (m.deliver x).2 = .ok namespaces := by
  obtain ⟨namespaces, hok⟩ := m.cache.apply_ok hn
  refine ⟨namespaces, ?_⟩
  rw [deliver, if_pos hopen]
  split <;> rename_i heq <;> rw [heq] at hok <;> cases hok
  rfl

/-- A change is refused exactly if one of its objects has no name. -/
theorem refused_iff (hopen : m.cache.isFeedOpen x.kind = true) :
    (∃ cause, (m.deliver x).2 = .error (.rejected cause)) ↔ ¬x.Named := by
  constructor
  · rintro ⟨cause, hrefused⟩ hn
    obtain ⟨namespaces, hok⟩ := deliver_named hopen hn
    cases hok.symm.trans hrefused
  · intro hn
    exact ⟨.unnamedObject, by rw [deliver_nameless hopen hn]⟩

/-- Whether or not its feed is open, a change with a nameless object adds to the counts alone. -/
theorem deliver_nameless_cases (m : Monitor) (hn : ¬x.Named) :
    ∃ n error, m.deliver x = (m.addCounts n, .error error) := by
  by_cases hopen : m.cache.isFeedOpen x.kind = true
  · exact ⟨_, _, deliver_nameless hopen hn⟩
  · exact ⟨fun _ => {}, .feedGone, by rw [deliver, if_neg hopen, addCounts_zero]⟩

/-! ## Many changes -/

theorem deliverAll_addCounts (m : Monitor) (n : Kind → FeedCounters) (xs : List Change) :
    (m.addCounts n).deliverAll xs = (m.deliverAll xs).addCounts n := by
  induction xs generalizing m with
  | nil => rfl
  | cons x xs ih =>
    simp only [deliverAll, List.foldl_cons, deliver_addCounts] at ih ⊢
    exact ih (m.deliver x).1

theorem announcements_addCounts (m : Monitor) (n : Kind → FeedCounters) (xs : List Change) :
    (m.addCounts n).announcements xs = m.announcements xs := by
  induction xs generalizing m with
  | nil => rfl
  | cons x xs ih => rw [announcements, announcements, deliver_addCounts, ih]

/-- By induction on the run: a refused change adds to the counts, and these pass through all later
changes. -/
theorem deliverAll_named (m : Monitor) (xs : List Change) :
    (∃ n, m.deliverAll xs = (m.deliverAll (xs.filter (·.Named))).addCounts n) ∧
      m.announcements xs = m.announcements (xs.filter (·.Named)) := by
  induction xs generalizing m with
  | nil => exact ⟨⟨fun _ => {}, rfl⟩, rfl⟩
  | cons x xs ih =>
    by_cases hn : x.Named
    · obtain ⟨hrun, hannounced⟩ := ih (m.deliver x).1
      rw [List.filter_cons_of_pos (by simpa using hn)]
      exact ⟨hrun, by rw [announcements, announcements, hannounced]⟩
    · obtain ⟨⟨n, hrun⟩, hannounced⟩ := ih m
      obtain ⟨n', error, hdeliver⟩ := m.deliver_nameless_cases hn
      rw [List.filter_cons_of_neg (by simpa using hn)]
      constructor
      · refine ⟨fun k => (n k).add (n' k), ?_⟩
        rw [deliverAll, List.foldl_cons, hdeliver]
        exact (m.deliverAll_addCounts n' xs).trans (by rw [hrun, addCounts_addCounts])
      · rw [announcements, hdeliver]
        exact (m.announcements_addCounts n' xs).trans hannounced

end Monitor

/-- A change that an open feed brings is refused exactly if one of its objects has no name. Of a
refused change nothing is left but what it adds to the counts: every question has the answer that it
had, and nobody has been sent a signal. Of any run of changes, those with nameless objects can be
left out: the same is announced, and in the end every question has the same answer. -/
theorem refused_without_trace (m : Monitor) (x : Change)
    (hopen : m.cache.isFeedOpen x.kind = true) :
    ((∃ cause, (m.deliver x).2 = .error (.rejected cause)) ↔ ¬x.Named) ∧
      (¬x.Named →
        m.AsBefore (m.deliver x).1 ∧ (m.deliver x).1 = m.addCounts (m.cache.tally x) ∧
          Monitor.told (m.deliver x).2 = []) ∧
      ∀ xs : List Change,
        (m.deliverAll (xs.filter (·.Named))).AsBefore (m.deliverAll xs) ∧
          m.announcements xs = m.announcements (xs.filter (·.Named)) := by
  refine ⟨Monitor.refused_iff hopen, fun hn => ?_, fun xs => ?_⟩
  · rw [Monitor.deliver_nameless hopen hn]
    exact ⟨.of_addCounts m _, rfl, rfl⟩
  · obtain ⟨⟨n, hrun⟩, hannounced⟩ := m.deliverAll_named xs
    rw [hrun]
    exact ⟨.of_addCounts _ n, hannounced⟩

/-- One pod is known, and one subscription waits for its namespace to change. -/
def attendedMonitor : Monitor :=
  ((({} : Monitor).deliver
    (.pods (.restarted [KindCache.namedPod (some "ns1") "web" "1"]))).1.watch "ns1").1

/-- A full listing of two pods in good order, and behind them one without a name. -/
def spoiltListing : Change :=
  .pods (.restarted
    [KindCache.namedPod (some "ns1") "api" "2", KindCache.namedPod (some "ns2") "db" "3", {}])

theorem refused_without_trace_spoiltListing :
    attendedMonitor.cache.isFeedOpen spoiltListing.kind = true ∧ ¬spoiltListing.Named ∧
      (∃ cause, (attendedMonitor.deliver spoiltListing).2 = .error (.rejected cause)) ∧
      attendedMonitor.AsBefore (attendedMonitor.deliver spoiltListing).1 := by
  have hopen : attendedMonitor.cache.isFeedOpen spoiltListing.kind = true := by decide +kernel
  have hn : ¬spoiltListing.Named := by decide +kernel
  obtain ⟨hrefused, htrace, _⟩ := refused_without_trace attendedMonitor spoiltListing hopen
  exact ⟨hopen, hn, hrefused.mpr hn, (htrace hn).1⟩

end SandboxWatch
