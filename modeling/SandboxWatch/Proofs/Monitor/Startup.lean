import SandboxWatch.Proofs.Cache.History
import SandboxWatch.Proofs.Status.Answer

/-!
# SandboxWatch.Proofs.Monitor.Startup

Waiting for the first listings. The kinds are waited for one after the other while their watches go
on; still, whoever has waited to the end finds all of them listed, and they stay so for good.

* `ClusterCache.Step` — all that may happen to a cache.
* `Wait.Step`         — what one who waits finds out when looking at the cache.
* `Startup.Step`      — both, in any order.
* `Settled`           — a cache that answers every question.
* `settled_for_good`  — once a wait has ended well, the cache is settled whatever comes.
-/

namespace SandboxWatch

/-! ## What may happen to a cache -/

theorem KindCache.synced_apply_of_synced {α : Type} [Resource α] {c : KindCache α}
    (h : c.synced = true) (e : WatchEvent α) : (c.apply e).1.synced = true := by
  by_cases hn : e.Named
  · rw [synced_apply hn, h, Bool.true_or]
  · rw [c.apply_unnamed hn]
    exact h

namespace ClusterCache

variable {c c' : ClusterCache} {k : Kind} {kinds : List Kind}

/-- A watch brings a change, reports an error, or ends. -/
inductive Step (c : ClusterCache) : ClusterCache → Prop where
  | apply (change : Change) : Step c (c.apply change).1
  | fail (k : Kind) : Step c (c.fail k)
  | closeFeed (k : Kind) : Step c (c.closeFeed k)

inductive Steps : ClusterCache → ClusterCache → Prop where
  | refl {c : ClusterCache} : Steps c c
  | cons {c c' c'' : ClusterCache} : Step c c' → Steps c' c'' → Steps c c''

theorem Step.synced (hs : Step c c') (h : c.isKindSynced k = true) : c'.isKindSynced k = true := by
  cases hs with
  | apply change =>
    cases change with
    | pods e => cases k <;> first | exact KindCache.synced_apply_of_synced h e | exact h
    | events e => cases k <;> first | exact KindCache.synced_apply_of_synced h e | exact h
    | namespaces e => cases k <;> first | exact KindCache.synced_apply_of_synced h e | exact h
  | fail k' => cases k' <;> cases k <;> exact h
  | closeFeed k' => cases k' <;> cases k <;> exact h

theorem Steps.synced (hs : Steps c c') (h : c.isKindSynced k = true) :
    c'.isKindSynced k = true := by
  induction hs with
  | refl => exact h
  | cons hstep _ ih => exact ih (hstep.synced h)

theorem isSynced_iff_forall : c.isSynced = true ↔ ∀ k, c.isKindSynced k = true := by
  rw [isSynced_iff]
  constructor
  · rintro ⟨hp, he, hn⟩ k
    cases k with
    | pods => exact hp
    | events => exact he
    | namespaces => exact hn
  · intro h
    exact ⟨h .pods, h .events, h .namespaces⟩

end ClusterCache

/-! ## Waiting -/

/-- How far one has come who waits for the first listings of several kinds in turn. -/
inductive Wait where
  /-- These are still to come, and the first of them is waited for. -/
  | due (kinds : List Kind)
  /-- The watch of this kind ended before its first listing. -/
  | closed (kind : Kind)

namespace Wait

variable {c : ClusterCache} {kinds : List Kind} {w w' : Wait} {k : Kind}

inductive Step (c : ClusterCache) : Wait → Wait → Prop where
  | listed {k : Kind} {rest : List Kind} :
      c.isKindSynced k = true → Step c (.due (k :: rest)) (.due rest)
  | closed {k : Kind} {rest : List Kind} :
      c.isKindSynced k = false → c.isFeedOpen k = false → Step c (.due (k :: rest)) (.closed k)

/-- Looking at one and the same cache as often as need be. -/
inductive Steps (c : ClusterCache) : Wait → Wait → Prop where
  | refl {w : Wait} : Steps c w w
  | cons {w w' w'' : Wait} : Step c w w' → Steps c w' w'' → Steps c w w''

theorem Steps.of_due_nil (h : Steps c (.due []) w) : w = .due [] := by
  cases h with
  | refl => rfl
  | cons hs _ => cases hs

theorem Steps.of_closed (h : Steps c (.closed k) w) : w = .closed k := by
  cases h with
  | refl => rfl
  | cons hs _ => cases hs

theorem steps_listed_iff (hk : c.isKindSynced k = true) (hw : w ≠ .due (k :: kinds)) :
    Steps c (.due (k :: kinds)) w ↔ Steps c (.due kinds) w := by
  refine ⟨fun h => ?_, fun h => .cons (.listed hk) h⟩
  cases h with
  | refl => exact absurd rfl hw
  | cons hs hrest =>
    cases hs with
    | listed _ => exact hrest
    | closed hns _ => exact absurd hk (Bool.eq_false_iff.mp hns)

theorem steps_unlisted_iff (hk : ¬c.isKindSynced k = true) (hw : w ≠ .due (k :: kinds)) :
    Steps c (.due (k :: kinds)) w ↔ c.isFeedOpen k = false ∧ w = .closed k := by
  constructor
  · intro h
    cases h with
    | refl => exact absurd rfl hw
    | cons hs hrest =>
      cases hs with
      | listed hs => exact absurd hs hk
      | closed _ hopen => exact ⟨hopen, hrest.of_closed⟩
  · rintro ⟨hopen, rfl⟩
    exact .cons (.closed (Bool.eq_false_iff.mpr hk) hopen) .refl

/-- One who looks at a cache to which nothing happens finds out what the barrier says. -/
theorem steps_iff_barrierOf (c : ClusterCache) (kinds : List Kind) :
    (Steps c (.due kinds) (.due []) ↔ c.barrierOf kinds = .ready) ∧
      ∀ k, Steps c (.due kinds) (.closed k) ↔ c.barrierOf kinds = .closed k := by
  induction kinds with
  | nil =>
    refine ⟨⟨fun _ => rfl, fun _ => .refl⟩, fun k => ⟨fun h => ?_, fun h => nomatch h⟩⟩
    cases h.of_due_nil
  | cons k rest ih =>
    rw [ClusterCache.barrierOf]
    by_cases hk : c.isKindSynced k = true
    · rw [if_pos hk, steps_listed_iff hk (by simp)]
      exact ⟨ih.1, fun k' => (steps_listed_iff hk (by simp)).trans (ih.2 k')⟩
    · rw [if_neg hk, steps_unlisted_iff hk (by simp)]
      cases hopen : c.isFeedOpen k with
      | true =>
        simp [steps_unlisted_iff hk, hopen]
      | false => simp [steps_unlisted_iff hk, hopen, eq_comm]

end Wait

/-! ## Both at once -/

/-- A cache and somebody who waits on it. -/
structure Startup where
  cache : ClusterCache
  wait : Wait

namespace Startup

inductive Step : Startup → Startup → Prop where
  | cache {c c' : ClusterCache} {w : Wait} : c.Step c' → Step ⟨c, w⟩ ⟨c', w⟩
  | wait {c : ClusterCache} {w w' : Wait} : w.Step c w' → Step ⟨c, w⟩ ⟨c, w'⟩

inductive Steps : Startup → Startup → Prop where
  | refl {s : Startup} : Steps s s
  | cons {s s' s'' : Startup} : Step s s' → Steps s' s'' → Steps s s''

/-- Whatever is not due any more has been listed. -/
def Sound (s : Startup) : Prop :=
  ∀ kinds, s.wait = .due kinds → ∀ k, k ∉ kinds → s.cache.isKindSynced k = true

variable {s s' : Startup}

theorem Sound.step (h : s.Sound) (hs : Step s s') : s'.Sound := by
  cases hs with
  | cache hc => exact fun kinds hw k hk => hc.synced (h kinds hw k hk)
  | wait hw =>
    cases hw with
    | closed _ _ => exact fun _ hw => nomatch hw
    | @listed k rest hlisted =>
      intro kinds hkinds k' hk'
      cases hkinds
      by_cases heq : k' = k
      · exact heq ▸ hlisted
      · exact h _ rfl k' (by simp [heq, hk'])

theorem Sound.steps (h : s.Sound) (hs : Steps s s') : s'.Sound := by
  induction hs with
  | refl => exact h
  | cons hstep _ ih => exact ih (h.step hstep)

theorem sound_of_all (h : s.wait = .due Kind.all) : s.Sound := by
  intro kinds hkinds k hk
  cases h.symm.trans hkinds
  cases k <;> exact absurd (by decide) hk

theorem Steps.not_closed (hs : Steps s s') (h : s.cache.isSynced = true)
    (hw : ∀ k, s.wait ≠ .closed k) (k : Kind) : s'.wait ≠ .closed k := by
  induction hs with
  | refl => exact hw k
  | cons hstep _ ih =>
    rw [ClusterCache.isSynced_iff_forall] at h
    cases hstep with
    | cache hc => exact ih (ClusterCache.isSynced_iff_forall.mpr fun k => hc.synced (h k)) hw
    | wait hwait =>
      cases hwait with
      | listed _ => exact ih (ClusterCache.isSynced_iff_forall.mpr h) fun _ heq => nomatch heq
      | @closed k' _ hns _ => exact absurd (h k') (Bool.eq_false_iff.mp hns)

end Startup

/-! ## For good -/

/-- The cache has an answer to every question: whoever waits on it is done at once, now and later,
and no error of a cache is to be seen. -/
structure Settled (c : ClusterCache) : Prop where
  synced : c.isSynced = true
  barrier : c.barrier = .ready
  waits : Wait.Steps c (.due Kind.all) (.due [])
  notClosed : ∀ s, Startup.Steps ⟨c, .due Kind.all⟩ s → ∀ k, s.wait ≠ .closed k
  reads : ∀ ns selector, (∃ n, c.getNamespace ns = .ok n) ∧
    (∃ pods, c.listPods ns selector = .ok pods) ∧ ∃ events, c.listEvents ns = .ok events
  status : ∀ config ns, ∃ status, sandboxStatus config c ns = .ok status

namespace ClusterCache

variable {c : ClusterCache}

theorem barrierOf_of_isSynced (h : c.isSynced = true) (kinds : List Kind) :
    c.barrierOf kinds = .ready := by
  induction kinds with
  | nil => rfl
  | cons k rest ih => rw [barrierOf, if_pos (isSynced_iff_forall.mp h k), ih]

theorem exists_sandboxStatus (h : c.isSynced = true) (config : Config) (ns : String) :
    ∃ status, sandboxStatus config c ns = .ok status := by
  obtain ⟨hp, _, hn⟩ := isSynced_iff.mp h
  cases hheld : c.namespaces.store.contents ⟨none, ns⟩ with
  | none => exact ⟨_, sandboxStatus_absent hn hheld⟩
  | some n =>
    by_cases hphase : n.phase = some "Terminating"
    · exact ⟨_, sandboxStatus_terminating hn hheld hphase⟩
    · exact ⟨_, sandboxStatus_running hn hheld hphase hp⟩

theorem settled_of_isSynced (h : c.isSynced = true) : Settled c := by
  obtain ⟨hp, he, hn⟩ := isSynced_iff.mp h
  refine ⟨h, barrierOf_of_isSynced h _, ?_, fun s hs => ?_, fun ns selector => ⟨?_, ?_, ?_⟩,
    exists_sandboxStatus h⟩
  · exact (Wait.steps_iff_barrierOf c Kind.all).1.mpr (barrierOf_of_isSynced h _)
  · exact hs.not_closed h fun _ heq => nomatch heq
  · exact ⟨_, KindCache.getUnscoped_synced hn ns⟩
  · rw [listPods, KindCache.listIn_synced hp]
    exact ⟨_, rfl⟩
  · exact ⟨_, KindCache.listIn_synced he ns⟩

end ClusterCache

/-- Once a wait that went on beside the watches has ended well, the cache is settled, and stays so
whatever the watches bring and even if all of them end. -/
theorem settled_for_good {c₀ c : ClusterCache} {s : Startup}
    (h : Startup.Steps ⟨c₀, .due Kind.all⟩ s) (hready : s.wait = .due [])
    (hlater : s.cache.Steps c) : Settled c := by
  have hsound : s.Sound := (Startup.sound_of_all rfl).steps h
  refine ClusterCache.settled_of_isSynced (ClusterCache.isSynced_iff_forall.mpr fun k => ?_)
  exact hlater.synced (hsound [] hready k List.not_mem_nil)

/-- The pods have been listed, and their watch has ended. -/
def podsListed : ClusterCache := (ClusterCache.empty.apply (.pods (.restarted []))).1.closeFeed .pods

/-- The other kinds have been listed as well. -/
def allListed : ClusterCache :=
  ((podsListed.apply (.namespaces (.restarted []))).1.apply (.events (.restarted []))).1

/-- All watches have ended, one of them after a new listing and one after an object without a name. -/
def allEnded : ClusterCache :=
  ((allListed.apply (.namespaces (.restarted [{ metadata := { name := some "ns1" } }]))).1.apply
    (.events (.applied {}))).1.closeFeed .events |>.closeFeed .namespaces

theorem settled_for_good_allEnded :
    Startup.Steps ⟨.empty, .due Kind.all⟩ ⟨allListed, .due []⟩ ∧ allListed.Steps allEnded ∧
      Settled allEnded := by
  have hwait : Startup.Steps ⟨.empty, .due Kind.all⟩ ⟨allListed, .due []⟩ :=
    .cons (.cache (.apply (.pods (.restarted [])))) <|
      .cons (.wait (.listed (by decide +kernel))) <| .cons (.cache (.closeFeed .pods)) <|
      .cons (.cache (.apply (.namespaces (.restarted [])))) <|
      .cons (.cache (.apply (.events (.restarted [])))) <|
      .cons (.wait (.listed (by decide +kernel))) <|
      .cons (.wait (.listed (by decide +kernel))) .refl
  have hlater : allListed.Steps allEnded :=
    .cons (.apply _) (.cons (.apply _) (.cons (.closeFeed .events)
      (.cons (.closeFeed .namespaces) .refl)))
  exact ⟨hwait, hlater, settled_for_good hwait rfl hlater⟩

end SandboxWatch
