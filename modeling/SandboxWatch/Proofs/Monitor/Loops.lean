import SandboxWatch.Proofs.Monitor.Counts
import SandboxWatch.Proofs.Monitor.Startup
import SandboxWatch.Watch.Rehearsal

/-!
# SandboxWatch.Proofs.Monitor.Loops

The three watch loops side by side. Each of them takes what its stream brings, events and errors,
and at last ends; they take turns in any order. What they have taken settles what somebody finds out
who waits for the first listings, and the errors among it leave no trace but a count.

* `Item`, `Monitor.take`  — what a stream brings, and what its loop makes of it.
* `Monitor.Run`           — the loops at work, with the items taken so far, the newest first.
* `Barrier.Expected`      — where the wait stands, told from these items.
* `Monitor.Run.synced_iff`, `open_iff` — what each loop leaves behind.
* `Monitor.Run.errors_only_counted` — the same run with its errors taken out.
* `wait_decided_by_items` — the barrier, and whoever waits at it, tell where the wait stands.
-/

namespace SandboxWatch

/-! ## Items -/

def Change.Named : Change → Prop
  | .pods e => e.Named
  | .events e => e.Named
  | .namespaces e => e.Named

def Change.isRestart : Change → Bool
  | .pods e => e.isRestart
  | .events e => e.isRestart
  | .namespaces e => e.isRestart

inductive Item where
  | event (c : Change)
  | error (k : Kind)
  /-- The stream of this kind is over. -/
  | ended (k : Kind)
deriving DecidableEq

namespace Item

def kind : Item → Kind
  | .event c => c.kind
  | .error k => k
  | .ended k => k

/-- All objects that the item brings have names. -/
def Named : Item → Prop
  | .event c => c.Named
  | .error _ => True
  | .ended _ => True

/-- A full listing of the kind. -/
def Lists (i : Item) (k : Kind) : Prop := ∃ c, i = .event c ∧ c.kind = k ∧ c.isRestart = true

def isError : Item → Bool
  | .error _ => true
  | _ => false

end Item

/-- What the loop of the item's kind does with it. -/
def Monitor.take (m : Monitor) : Item → Monitor
  | .event c => (m.deliver c).1
  | .error k => { m with cache := m.cache.fail k }
  | .ended k => { m with cache := m.cache.closeFeed k }

/-- The loops have taken these items, the newest first. A loop that is over takes none. -/
inductive Monitor.Run (start : Monitor) : List Item → Monitor → Prop where
  | start : Run start [] start
  | take {h : List Item} {m : Monitor} {i : Item} :
      Run start h m → m.cache.isFeedOpen i.kind = true → i.Named → Run start (i :: h) (m.take i)

/-! ## Where the wait stands -/

def Listed (h : List Item) (k : Kind) : Prop := ∃ i ∈ h, i.Lists k

/-- The kind has not been listed, and all those before it have. -/
def FirstDue (h : List Item) (k : Kind) : Prop :=
  ∃ before after, Kind.all = before ++ k :: after ∧ (∀ b ∈ before, Listed h b) ∧ ¬Listed h k

inductive Barrier.Expected (h : List Item) : Barrier → Prop where
  | ready : (∀ k, Listed h k) → Expected h .ready
  | waiting {k : Kind} : FirstDue h k → .ended k ∉ h → Expected h .waiting
  | closed {k : Kind} : FirstDue h k → .ended k ∈ h → Expected h (.closed k)

/-- What one finds out who has come this far and now looks at the cache as often as need be. -/
inductive Wait.Finds (c : ClusterCache) (w : Wait) : Barrier → Prop where
  | ready : Steps c w (.due []) → Finds c w .ready
  | closed {k : Kind} : Steps c w (.closed k) → Finds c w (.closed k)
  | waiting : ¬Steps c w (.due []) → (∀ k, ¬Steps c w (.closed k)) → Finds c w .waiting

/-- Somebody waits for the first listings of all kinds in turn. The wait may begin at any moment,
and any number of items may be taken between two looks at the cache. -/
inductive Awaited (start : Monitor) : List Item → Monitor → Wait → Prop where
  | begins {h : List Item} {m : Monitor} : start.Run h m → Awaited start h m (.due Kind.all)
  | take {h : List Item} {m : Monitor} {w : Wait} {i : Item} :
      Awaited start h m w → m.cache.isFeedOpen i.kind = true → i.Named →
      Awaited start (i :: h) (m.take i) w
  | look {h : List Item} {m : Monitor} {w w' : Wait} :
      Awaited start h m w → w.Step m.cache w' → Awaited start h m w'

/-! ## One item -/

section OneItem

variable {α : Type} [Resource α] {k : Kind}

theorem KindCache.feedOpen_apply (c : KindCache α) (e : WatchEvent α) :
    (c.apply e).1.feedOpen = c.feedOpen := by
  by_cases hn : e.Named
  · obtain ⟨_, _, happly⟩ := c.apply_named hn
    rw [happly]
    rfl
  · rw [c.apply_unnamed hn]
    rfl

namespace ClusterCache

variable {c : ClusterCache}

theorem isKindSynced_apply {change : Change} (hn : change.Named) :
    (c.apply change).1.isKindSynced k = true ↔
      c.isKindSynced k = true ∨ change.kind = k ∧ change.isRestart = true := by
  cases change with
  | pods e =>
    cases k with
    | pods => simp [apply, isKindSynced, KindCache.synced_apply hn, Change.kind, Change.isRestart]
    | events => simp [apply, isKindSynced, Change.kind]
    | namespaces => simp [apply, isKindSynced, Change.kind]
  | events e =>
    cases k with
    | events => simp [apply, isKindSynced, KindCache.synced_apply hn, Change.kind, Change.isRestart]
    | pods => simp [apply, isKindSynced, Change.kind]
    | namespaces => simp [apply, isKindSynced, Change.kind]
  | namespaces e =>
    cases k with
    | namespaces =>
      simp [apply, isKindSynced, KindCache.synced_apply hn, Change.kind, Change.isRestart]
    | pods => simp [apply, isKindSynced, Change.kind]
    | events => simp [apply, isKindSynced, Change.kind]

theorem isFeedOpen_apply (c : ClusterCache) (change : Change) (k : Kind) :
    (c.apply change).1.isFeedOpen k = c.isFeedOpen k := by
  cases change with
  | pods e => cases k <;> first | exact KindCache.feedOpen_apply c.pods e | rfl
  | events e => cases k <;> first | exact KindCache.feedOpen_apply c.events e | rfl
  | namespaces e => cases k <;> first | exact KindCache.feedOpen_apply c.namespaces e | rfl

theorem isKindSynced_fail (c : ClusterCache) (k' : Kind) :
    (c.fail k').isKindSynced k = c.isKindSynced k := by
  cases k' <;> cases k <;> rfl

theorem isFeedOpen_fail (c : ClusterCache) (k' : Kind) :
    (c.fail k').isFeedOpen k = c.isFeedOpen k := by
  cases k' <;> cases k <;> rfl

theorem isKindSynced_closeFeed (c : ClusterCache) (k' : Kind) :
    (c.closeFeed k').isKindSynced k = c.isKindSynced k := by
  cases k' <;> cases k <;> rfl

theorem isFeedOpen_closeFeed (c : ClusterCache) (k' : Kind) :
    (c.closeFeed k').isFeedOpen k = true ↔ c.isFeedOpen k = true ∧ k' ≠ k := by
  cases k' <;> cases k <;> simp [closeFeed, isFeedOpen, KindCache.closeFeed]

end ClusterCache

namespace Monitor

variable {m : Monitor} {i : Item}

theorem cache_deliver {change : Change} (h : m.cache.isFeedOpen change.kind = true) :
    (m.deliver change).1.cache = (m.cache.apply change).1 := by
  rw [deliver, if_pos h]
  split <;> rename_i heq <;> rw [heq]

theorem isKindSynced_take (hopen : m.cache.isFeedOpen i.kind = true) (hn : i.Named) :
    (m.take i).cache.isKindSynced k = true ↔ m.cache.isKindSynced k = true ∨ i.Lists k := by
  cases i with
  | event c =>
    rw [take, cache_deliver hopen, ClusterCache.isKindSynced_apply hn]
    simp [Item.Lists]
  | error k' => simp [take, ClusterCache.isKindSynced_fail, Item.Lists]
  | ended k' => simp [take, ClusterCache.isKindSynced_closeFeed, Item.Lists]

theorem isFeedOpen_take (hopen : m.cache.isFeedOpen i.kind = true) :
    (m.take i).cache.isFeedOpen k = true ↔ m.cache.isFeedOpen k = true ∧ i ≠ .ended k := by
  cases i with
  | event c => simp [take, cache_deliver hopen, ClusterCache.isFeedOpen_apply]
  | error k' => simp [take, ClusterCache.isFeedOpen_fail]
  | ended k' => simp [take, ClusterCache.isFeedOpen_closeFeed]

end Monitor

/-! ### Loops on a script -/

theorem ClusterCache.apply_ok (c : ClusterCache) {change : Change} (hn : change.Named) :
    ∃ namespaces, (c.apply change).2 = .ok namespaces := by
  cases change with
  | pods e =>
    obtain ⟨_, _, happly⟩ := c.pods.apply_named hn
    exact ⟨c.pods.touched e, by rw [apply, happly]⟩
  | events e =>
    obtain ⟨_, _, happly⟩ := c.events.apply_named hn
    exact ⟨c.events.touched e, by rw [apply, happly]⟩
  | namespaces e =>
    obtain ⟨_, _, happly⟩ := c.namespaces.apply_named hn
    exact ⟨c.namespaces.touched e, by rw [apply, happly]⟩

/-- The item that an entry of a script stands for. Requests are none of the monitor's business. -/
def Entry.item? (e : Entry) : Option Item :=
  match e.activity with
  | .request _ => none
  | .error => some (.error e.kind)
  | .change c => if c.kind = e.kind then some (.event c) else none

/-- A loop that follows a script takes the items that its entries stand for. -/
theorem Rehearsal.monitor_perform {r : Rehearsal} {e : Entry} {i : Item} (hi : e.item? = some i)
    (hopen : r.monitor.cache.isFeedOpen e.kind = true) (hn : i.Named) :
    (r.perform e).monitor = r.monitor.take i := by
  obtain ⟨time, kind, activity⟩ := e
  rw [perform, if_pos hopen]
  cases activity with
  | request q => cases hi
  | error =>
    cases hi
    rfl
  | change c =>
    unfold Entry.item? at hi
    dsimp only at hi
    split at hi
    · rename_i hkind
      cases hi
      obtain ⟨namespaces, hok⟩ := r.monitor.cache.apply_ok hn
      have hdeliver : (r.monitor.deliver c).2 = .ok namespaces := by
        rw [Monitor.deliver, if_pos (hkind ▸ hopen)]
        split <;> rename_i heq <;> rw [heq] at hok <;> cases hok
        rfl
      simp only [Monitor.take]
      split <;> rename_i heq <;> rw [heq] at hdeliver ⊢
      cases hdeliver
    · cases hi

end OneItem

/-! ## All items so far -/

section AllItems

variable {start m : Monitor} {h : List Item} {k : Kind} {i : Item}

theorem listed_cons : Listed (i :: h) k ↔ Listed h k ∨ i.Lists k := by
  simp [Listed, or_comm]

theorem Monitor.Run.synced_iff (hr : start.Run h m) (hstart : start.cache = .empty) :
    m.cache.isKindSynced k = true ↔ Listed h k := by
  induction hr with
  | start =>
    rw [hstart]
    cases k <;> simp [Listed, ClusterCache.isKindSynced, ClusterCache.empty]
  | take _ hopen hn ih => rw [isKindSynced_take hopen hn, ih, listed_cons]

theorem Monitor.Run.open_iff (hr : start.Run h m) (hstart : start.cache = .empty) :
    m.cache.isFeedOpen k = true ↔ .ended k ∉ h := by
  induction hr with
  | start =>
    rw [hstart]
    cases k <;> simp [ClusterCache.isFeedOpen, ClusterCache.empty]
  | take _ hopen _ ih =>
    rw [isFeedOpen_take hopen, ih, List.mem_cons, not_or, and_comm, ne_comm]

end AllItems

/-! ## The barrier -/

section Barrier

variable {c : ClusterCache} {h : List Item} {k : Kind} {kinds before after : List Kind}

namespace ClusterCache

/-- Kinds that are synced hold nobody up. -/
theorem barrierOf_append (hbefore : ∀ b ∈ before, c.isKindSynced b = true) :
    c.barrierOf (before ++ kinds) = c.barrierOf kinds := by
  induction before with
  | nil => rfl
  | cons b rest ih =>
    rw [List.cons_append, barrierOf, if_pos (hbefore b List.mem_cons_self)]
    exact ih fun b' hb' => hbefore b' (List.mem_cons_of_mem b hb')

theorem barrierOf_due (hk : ¬c.isKindSynced k = true) :
    c.barrierOf (k :: after) = if c.isFeedOpen k then .waiting else .closed k := by
  rw [barrierOf, if_neg hk]

/-- Of several kinds either all are synced or there is a first one that is not. -/
theorem synced_or_due (c : ClusterCache) (kinds : List Kind) :
    (∀ k ∈ kinds, c.isKindSynced k = true) ∨
      ∃ before k after, kinds = before ++ k :: after ∧
        (∀ b ∈ before, c.isKindSynced b = true) ∧ ¬c.isKindSynced k = true := by
  by_cases hall : ∀ k ∈ kinds, c.isKindSynced k = true
  · exact .inl hall
  · simp only [Classical.not_forall] at hall
    obtain ⟨k, hk, hnot⟩ := hall
    have hsome : (kinds.find? fun k => !c.isKindSynced k).isSome = true := by
      rw [List.find?_isSome]
      exact ⟨k, hk, by simpa using hnot⟩
    obtain ⟨k', hk'⟩ := Option.isSome_iff_exists.mp hsome
    obtain ⟨hdue, before, after, heq, hbefore⟩ := List.find?_eq_some_iff_append.mp hk'
    exact .inr ⟨before, k', after, heq, by simpa using hbefore, by simpa using hdue⟩

end ClusterCache

variable {start m : Monitor}

theorem Monitor.Run.barrier_of_firstDue (hr : start.Run h m) (hstart : start.cache = .empty)
    (hk : FirstDue h k) : m.cache.barrier = if .ended k ∈ h then .closed k else .waiting := by
  obtain ⟨before, after, hkinds, hbefore, hdue⟩ := hk
  rw [ClusterCache.barrier, hkinds,
    ClusterCache.barrierOf_append fun b hb => (hr.synced_iff hstart).mpr (hbefore b hb),
    ClusterCache.barrierOf_due (mt (hr.synced_iff hstart).mp hdue)]
  by_cases hended : .ended k ∈ h
  · rw [if_pos hended, if_neg fun hopen => (hr.open_iff hstart).mp hopen hended]
  · rw [if_neg hended, if_pos ((hr.open_iff hstart).mpr hended)]

theorem Monitor.Run.expected_barrier (hr : start.Run h m) (hstart : start.cache = .empty) :
    m.cache.barrier.Expected h := by
  obtain hall | ⟨before, k, after, hkinds, hbefore, hdue⟩ :=
    ClusterCache.synced_or_due m.cache Kind.all
  · have hlisted : ∀ k, Listed h k := fun k =>
      (hr.synced_iff hstart).mp (hall k (by cases k <;> decide))
    have hready : m.cache.barrier = .ready := by
      have hnobody : m.cache.barrierOf (Kind.all ++ []) = .ready :=
        ClusterCache.barrierOf_append hall
      rwa [List.append_nil] at hnobody
    exact hready ▸ .ready hlisted
  · have hk : FirstDue h k := ⟨before, after, hkinds,
      fun b hb => (hr.synced_iff hstart).mp (hbefore b hb), mt (hr.synced_iff hstart).mpr hdue⟩
    rw [hr.barrier_of_firstDue hstart hk]
    by_cases hended : .ended k ∈ h
    · rw [if_pos hended]
      exact .closed hk hended
    · rw [if_neg hended]
      exact .waiting hk hended

theorem Barrier.Expected.eq {b : Barrier} (hb : b.Expected h) (hr : start.Run h m)
    (hstart : start.cache = .empty) : m.cache.barrier = b := by
  cases hb with
  | ready hall =>
    exact ClusterCache.barrierOf_of_isSynced (ClusterCache.isSynced_iff_forall.mpr fun k =>
      (hr.synced_iff hstart).mpr (hall k)) _
  | waiting hk hended => rw [hr.barrier_of_firstDue hstart hk, if_neg hended]
  | closed hk hended => rw [hr.barrier_of_firstDue hstart hk, if_pos hended]

end Barrier

/-! ## Whoever waits -/

section Waiting

variable {start m : Monitor} {h : List Item} {i : Item} {w w' : Wait} {c : ClusterCache}

/-- What one knows of the items taken who has come this far. -/
def Wait.Told (h : List Item) : Wait → Prop
  | .due kinds => ∃ before, Kind.all = before ++ kinds ∧ ∀ b ∈ before, Listed h b
  | .closed k => FirstDue h k ∧ .ended k ∈ h

/-- A loop that is over lists nothing any more, so that what was known stays true. -/
theorem Wait.Told.take (hw : w.Told h) (hi : ∀ k, i.Lists k → .ended k ∉ h) : w.Told (i :: h) := by
  cases w with
  | due kinds =>
    obtain ⟨before, hkinds, hbefore⟩ := hw
    exact ⟨before, hkinds, fun b hb => listed_cons.mpr (.inl (hbefore b hb))⟩
  | closed k =>
    obtain ⟨⟨before, after, hkinds, hbefore, hdue⟩, hended⟩ := hw
    refine ⟨⟨before, after, hkinds, fun b hb => listed_cons.mpr (.inl (hbefore b hb)), ?_⟩,
      List.mem_cons_of_mem i hended⟩
    intro hlisted
    obtain hlisted | hlists := listed_cons.mp hlisted
    · exact hdue hlisted
    · exact hi k hlists hended

theorem Wait.Told.look (hw : w.Told h) (hr : start.Run h m) (hstart : start.cache = .empty)
    (hs : w.Step m.cache w') : w'.Told h := by
  cases hs with
  | @listed k rest hk =>
    obtain ⟨before, hkinds, hbefore⟩ := hw
    refine ⟨before ++ [k], by rw [hkinds, List.append_assoc, List.singleton_append], ?_⟩
    intro b hb
    obtain hb | hb := List.mem_append.mp hb
    · exact hbefore b hb
    · exact List.mem_singleton.mp hb ▸ (hr.synced_iff hstart).mp hk
  | @closed k rest hk hclosed =>
    obtain ⟨before, hkinds, hbefore⟩ := hw
    refine ⟨⟨before, rest, hkinds, hbefore, ?_⟩, ?_⟩
    · exact fun hlisted => Bool.eq_false_iff.mp hk ((hr.synced_iff hstart).mpr hlisted)
    · refine Classical.byContradiction fun hended => ?_
      exact Bool.eq_false_iff.mp hclosed ((hr.open_iff hstart).mpr hended)

theorem Awaited.run (ha : Awaited start h m w) : start.Run h m := by
  induction ha with
  | begins hr => exact hr
  | take _ hopen hn ih => exact .take ih hopen hn
  | look _ _ ih => exact ih

theorem Awaited.told (ha : Awaited start h m w) (hstart : start.cache = .empty) : w.Told h := by
  induction ha with
  | begins _ => exact ⟨[], rfl, by simp⟩
  | @take h m w i ha hopen _ ih =>
    refine ih.take fun k hlists hended => ?_
    obtain ⟨change, rfl, rfl, _⟩ := hlists
    exact (ha.run.open_iff hstart).mp hopen hended
  | look ha hs ih => exact ih.look ha.run hstart hs

theorem Wait.finds_iff (hready : Steps c w (.due []) ↔ c.barrier = .ready)
    (hclosed : ∀ k, Steps c w (.closed k) ↔ c.barrier = .closed k) (b : Barrier) :
    w.Finds c b ↔ c.barrier = b := by
  constructor
  · rintro (h | h | ⟨h, h'⟩)
    · exact hready.mp h
    · exact (hclosed _).mp h
    · cases hb : c.barrier with
      | ready => exact absurd (hready.mpr hb) h
      | waiting => rfl
      | closed k => exact absurd ((hclosed k).mpr hb) (h' k)
  · rintro rfl
    cases hb : c.barrier with
    | ready => exact .ready (hready.mpr hb)
    | waiting =>
      exact .waiting (fun h => nomatch hb.symm.trans (hready.mp h))
        fun k h => nomatch hb.symm.trans ((hclosed k).mp h)
    | closed k => exact .closed ((hclosed k).mpr hb)

/-- However long one has waited, and whatever one has seen meanwhile: it is the cache of this very
moment that decides. -/
theorem Awaited.finds_iff (ha : Awaited start h m w) (hstart : start.cache = .empty) (b : Barrier) :
    w.Finds m.cache b ↔ m.cache.barrier = b := by
  have hr := ha.run
  have htold := ha.told hstart
  cases w with
  | due kinds =>
    obtain ⟨before, hkinds, hbefore⟩ := htold
    have hbarrier : m.cache.barrier = m.cache.barrierOf kinds := by
      rw [ClusterCache.barrier, hkinds, ClusterCache.barrierOf_append fun b hb =>
        (hr.synced_iff hstart).mpr (hbefore b hb)]
    obtain ⟨hready, hclosed⟩ := Wait.steps_iff_barrierOf m.cache kinds
    rw [← hbarrier] at hready
    exact Wait.finds_iff hready (fun k => hbarrier ▸ hclosed k) b
  | closed k =>
    obtain ⟨hdue, hended⟩ := htold
    have hbarrier : m.cache.barrier = .closed k := by
      rw [hr.barrier_of_firstDue hstart hdue, if_pos hended]
    rw [hbarrier]
    refine (Wait.finds_iff ?_ (fun k' => ?_) b).trans (by rw [hbarrier])
    · rw [hbarrier]
      exact ⟨fun h => (nomatch h.of_closed), fun h => (nomatch h)⟩
    · rw [hbarrier, Barrier.closed.injEq]
      exact ⟨fun h => (Wait.closed.inj h.of_closed).symm, fun h => h ▸ .refl⟩

end Waiting

/-! ## Errors -/

/-- As many more errors have been counted, and nothing else is different. -/
def Monitor.addErrors (m : Monitor) (n : Kind → Nat) : Monitor :=
  m.addCounts fun k => { errors := n k }

/-- How many errors of each kind there are. -/
def errorsIn (h : List Item) (k : Kind) : Nat := h.count (.error k)

def withoutErrors (h : List Item) : List Item := h.filter fun i => !i.isError

section Errors

variable {start m : Monitor} {h : List Item}

/-- Apart from errors, no item looks at a count. -/
theorem Monitor.take_addCounts {i : Item} (m : Monitor) (n : Kind → FeedCounters)
    (hi : i.isError = false) : (m.addCounts n).take i = (m.take i).addCounts n := by
  cases i with
  | event c => rw [take, take, deliver_addCounts]
  | error k => cases hi
  | ended k => cases k <;> rfl

theorem Monitor.take_error (m : Monitor) (k : Kind) :
    m.take (.error k) = m.addErrors fun k' => if k' = k then 1 else 0 := by
  cases k <;> rfl

theorem errorsIn_cons_error (h : List Item) (k : Kind) :
    errorsIn (.error k :: h) = fun k' => errorsIn h k' + if k' = k then 1 else 0 := by
  funext k'
  rw [errorsIn, List.count_cons, errorsIn]
  by_cases hk : k' = k
  · simp [hk]
  · simp [hk, Ne.symm hk]

theorem errorsIn_cons_of_ne {i : Item} (hi : i.isError = false) :
    errorsIn (i :: h) = errorsIn h := by
  funext k
  refine List.count_cons_of_ne ?_
  rintro rfl
  cases hi

/-- By induction on the items: an error raises a count that no later item looks at. -/
theorem Monitor.Run.errors_only_counted (hr : start.Run h m) :
    ∃ m', start.Run (withoutErrors h) m' ∧ m = m'.addErrors (errorsIn h) := by
  induction hr with
  | start => exact ⟨start, .start, rfl⟩
  | @take h m i _ hopen hn ih =>
    obtain ⟨m', hr', rfl⟩ := ih
    rw [addErrors, isFeedOpen_addCounts] at hopen
    cases hi : i.isError with
    | true =>
      obtain ⟨k, rfl⟩ : ∃ k, i = .error k := by
        cases i with
        | error k => exact ⟨k, rfl⟩
        | _ => cases hi
      refine ⟨m', hr', ?_⟩
      rw [take_error, errorsIn_cons_error]
      exact m'.addCounts_addCounts _ _
    | false =>
      refine ⟨m'.take i, ?_, ?_⟩
      · rw [SandboxWatch.withoutErrors, List.filter_cons_of_pos (by simp [hi])]
        exact .take hr' hopen hn
      · rw [errorsIn_cons_of_ne hi]
        exact m'.take_addCounts _ hi

end Errors

/-- At every moment it is the items taken so far that decide where the wait for the first listings
stands: it is over once all kinds have been listed; until then the first kind that has not been
listed decides, which is still waited for as long as its loop runs. Whoever waits finds out the
same, whenever the wait began. An error is counted, and without the errors among the items all
else would be the same. -/
theorem wait_decided_by_items (config : Config) (registry : Registry) {h : List Item} {m : Monitor}
    (hr : Monitor.Run { config, registry } h m) :
    (∀ b, m.cache.barrier = b ↔ b.Expected h) ∧
      (∀ w, Awaited { config, registry } h m w → ∀ b, w.Finds m.cache b ↔ b.Expected h) ∧
      (∀ (m : Monitor) k, m.take (.error k) = m.addErrors fun k' => if k' = k then 1 else 0) ∧
      ∃ m', Monitor.Run { config, registry } (withoutErrors h) m' ∧
        m = m'.addErrors (errorsIn h) := by
  have hbarrier : ∀ b, m.cache.barrier = b ↔ b.Expected h := fun b =>
    ⟨fun hb => hb ▸ hr.expected_barrier rfl, fun hb => hb.eq hr rfl⟩
  exact ⟨hbarrier, fun w hw b => (hw.finds_iff rfl b).trans (hbarrier b), Monitor.take_error,
    hr.errors_only_counted⟩

/-- The pods are listed, the loop of the events meets an error and is over, and then the namespaces
are listed: the newest first. -/
def hastyItems : List Item :=
  [.event (.namespaces (.restarted [])), .ended .events, .error .events,
   .event (.pods (.restarted [KindCache.namedPod (some "ns1") "web" "1"]))]

def hastyMonitor : Monitor := hastyItems.foldr (fun i m => m.take i) {}

theorem named_hastyItems : ∀ i ∈ hastyItems, i.Named := by
  simp [hastyItems, Item.Named, Change.Named, WatchEvent.Named, WatchEvent.objects,
    KindCache.namedPod, Resource.metadata]

theorem wait_decided_by_items_hasty :
    Monitor.Run {} hastyItems hastyMonitor ∧
      Awaited {} hastyItems hastyMonitor (.due [.events, .namespaces]) ∧
      hastyMonitor.cache.barrier = .closed .events ∧
      Wait.Finds hastyMonitor.cache (.due [.events, .namespaces]) (.closed .events) := by
  have hnamed := named_hastyItems
  simp only [hastyItems, List.forall_mem_cons] at hnamed
  obtain ⟨hn₄, hn₃, hn₂, hn₁, _⟩ := hnamed
  have hwait : Awaited {} hastyItems hastyMonitor (.due [.events, .namespaces]) :=
    .take (.take (.take (.look (.take (.begins .start) rfl hn₁) (.listed (by decide +kernel)))
      (by decide +kernel) hn₂) (by decide +kernel) hn₃) (by decide +kernel) hn₄
  have hrun := hwait.run
  have hexpected : Barrier.Expected hastyItems (.closed .events) := by
    refine .closed ⟨[.pods], [.namespaces], rfl, ?_, ?_⟩ (by decide +kernel)
    · intro b hb
      rw [List.mem_singleton.mp hb]
      exact ⟨_, .tail _ (.tail _ (.tail _ (.head _))), _, rfl, rfl, rfl⟩
    · rintro ⟨i, hi, c, rfl, hkind, _⟩
      simp only [hastyItems, List.mem_cons, Item.event.injEq, reduceCtorEq, List.not_mem_nil,
        or_false, false_or] at hi
      obtain rfl | rfl := hi <;> cases hkind
  obtain ⟨hbarrier, hfinds, _⟩ := wait_decided_by_items {} {} hrun
  exact ⟨hrun, hwait, (hbarrier _).mpr hexpected, (hfinds _ hwait _).mpr hexpected⟩

end SandboxWatch
