import SandboxWatch.Monitor.Basic
import SandboxWatch.Proofs.Cache.Agreement
import SandboxWatch.Proofs.Registry.Actions

/-!
# SandboxWatch.Proofs.Monitor.Interleaving

A monitor at work, step by step. The feeds of pods and of namespaces each apply their events in
steps: they collect the namespaces that an event touches, write the store, write the index, and
announce to one namespace after the other. In between anything else may happen.

* `Feed.Step`      — one step of a feed.
* `System.Step`    — one step of the whole: of a feed, of a client, or of anybody else who uses the
  registry.
* `Feed.Steps.of_apply`, `System.Steps.of_deliver` — an event whose steps are taken in one go does
  what `KindCache.apply` and `Monitor.deliver` do.
-/

namespace SandboxWatch

/-! ## Feeds -/

/-- How far the event that is being applied has come. -/
inductive Flight (α : Type) where
  | idle
  /-- It is known who is to hear of the event, and nothing is written. -/
  | collected (e : WatchEvent α) (owed : List String)
  /-- The store is written, and the index is not. -/
  | stored (e : WatchEvent α) (owed : List String)
  /-- All is written, and these are yet to hear of it. -/
  | announcing (owed : List String)

structure Feed (α : Type) where
  cache : KindCache α
  flight : Flight α := .idle

namespace Feed

variable {α : Type} [Resource α]

inductive Step : Feed α → Registry → Feed α → Registry → Prop where
  | collect {c : KindCache α} {r : Registry} (e : WatchEvent α) :
      Step ⟨c, .idle⟩ r ⟨c.count e, .collected e (c.touched e)⟩ r
  | refuse {c : KindCache α} {r : Registry} {e : WatchEvent α} {owed : List String} :
      c.writeStore? e = none → Step ⟨c, .collected e owed⟩ r ⟨c, .idle⟩ r
  | store {c c' : KindCache α} {r : Registry} {e : WatchEvent α} {owed : List String} :
      c.writeStore? e = some c' → Step ⟨c, .collected e owed⟩ r ⟨c', .stored e owed⟩ r
  | index {c : KindCache α} {r : Registry} {e : WatchEvent α} {owed : List String} :
      Step ⟨c, .stored e owed⟩ r ⟨(c.writeIndex e).markSynced e, .announcing owed⟩ r
  | announce {c : KindCache α} {r : Registry} {ns : String} {owed : List String} :
      Step ⟨c, .announcing (ns :: owed)⟩ r ⟨c, .announcing owed⟩ (r.notify ns)
  | finish {c : KindCache α} {r : Registry} : Step ⟨c, .announcing []⟩ r ⟨c, .idle⟩ r

inductive Steps : Feed α → Registry → Feed α → Registry → Prop where
  | refl {f : Feed α} {r : Registry} : Steps f r f r
  | cons {f f' f'' : Feed α} {r r' r'' : Registry} :
      Step f r f' r' → Steps f' r' f'' r'' → Steps f r f'' r''

/-- The registry once the outcome of an event has been announced. -/
def announced (r : Registry) : Except ApplyError (List String) → Registry
  | .ok namespaces => r.notifyAll namespaces
  | .error _ => r

namespace Steps

theorem of_announcing (c : KindCache α) (r : Registry) (owed : List String) :
    Steps ⟨c, .announcing owed⟩ r ⟨c, .idle⟩ (r.notifyAll owed) := by
  induction owed generalizing r with
  | nil => exact .cons .finish .refl
  | cons ns rest ih => exact .cons .announce (ih (r.notify ns))

theorem of_apply (c : KindCache α) (r : Registry) (e : WatchEvent α) :
    Steps ⟨c, .idle⟩ r ⟨(c.apply e).1, .idle⟩ (announced r (c.apply e).2) := by
  refine .cons (.collect e) ?_
  cases hs : (c.count e).writeStore? e with
  | none =>
    have happly : c.apply e = (c.count e, .error .unnamedObject) := by
      rw [KindCache.apply, hs]
    rw [happly]
    exact .cons (.refuse hs) .refl
  | some stored =>
    have happly : c.apply e = ((stored.writeIndex e).markSynced e, .ok (c.touched e)) := by
      rw [KindCache.apply, hs]
    rw [happly]
    exact .cons (.store hs) (.cons .index (of_announcing _ r _))

end Steps
end Feed

/-! ## The whole -/

/-- A subscriber that looks at a status, takes a signal, and looks again. -/
structure Client where
  id : WatchId
  /-- What it saw when it last looked; nothing if it has not looked since its last signal. -/
  seen : Option (Except StatusError SandboxStatus) := none

structure System where
  config : Config
  pods : Feed Pod
  namespaces : Feed Namespace
  events : KindCache Event
  registry : Registry
  client : Option Client := none

namespace System

def monitor (s : System) : Monitor where
  config := s.config
  cache := { pods := s.pods.cache, events := s.events, namespaces := s.namespaces.cache }
  registry := s.registry

def status (s : System) (ns : String) : Except StatusError SandboxStatus := s.monitor.status ns

/-- One step, the client being interested in the given namespace. Only the client takes its signals;
that aside anything may be done to the registry at any time. -/
inductive Step (ns : String) : System → System → Prop where
  | pods {s : System} {f : Feed Pod} {r : Registry} :
      Feed.Step s.pods s.registry f r → Step ns s { s with pods := f, registry := r }
  | namespaces {s : System} {f : Feed Namespace} {r : Registry} :
      Feed.Step s.namespaces s.registry f r → Step ns s { s with namespaces := f, registry := r }
  | watch {s : System} :
      s.client = none →
      Step ns s { s with
        registry := (s.registry.watch ns).1
        client := some { id := (s.registry.watch ns).2 } }
  | look {s : System} {client : Client} :
      s.client = some client →
      Step ns s { s with client := some { client with seen := some (s.status ns) } }
  | take {s : System} {client : Client} {r : Registry} :
      s.client = some client → s.registry.tryChanged? client.id = some (r, true) →
      Step ns s { s with registry := r, client := some { client with seen := none } }
  | act {s : System} {a : Registry.Action} {r : Registry} :
      (∀ client, s.client = some client → a.Spares client.id) →
      s.registry.perform? a = some r → Step ns s { s with registry := r }

inductive Steps (ns : String) : System → System → Prop where
  | refl {s : System} : Steps ns s s
  | cons {s s' s'' : System} : Step ns s s' → Steps ns s' s'' → Steps ns s s''

namespace Steps

variable {ns : String}

theorem of_pods {f f' : Feed Pod} {r r' : Registry} (h : Feed.Steps f r f' r') (s : System) :
    Steps ns { s with pods := f, registry := r } { s with pods := f', registry := r' } := by
  induction h with
  | refl => exact .refl
  | cons hs _ ih => exact .cons (.pods hs) ih

theorem of_namespaces {f f' : Feed Namespace} {r r' : Registry} (h : Feed.Steps f r f' r')
    (s : System) :
    Steps ns { s with namespaces := f, registry := r }
      { s with namespaces := f', registry := r' } := by
  induction h with
  | refl => exact .refl
  | cons hs _ ih => exact .cons (.namespaces hs) ih

end Steps

/-- Every change to pods or namespaces that the monitor takes in one go is a run of single steps. -/
theorem Steps.of_deliver {s : System} (hp : s.pods.flight = .idle)
    (hn : s.namespaces.flight = .idle) (change : Change) (hkind : change.kind ≠ .events)
    (hopen : s.monitor.cache.isFeedOpen change.kind = true) (ns : String) :
    ∃ s', Steps ns s s' ∧ s'.monitor = (s.monitor.deliver change).1 ∧
      s'.pods.flight = .idle ∧ s'.namespaces.flight = .idle ∧ s'.client = s.client := by
  obtain ⟨config, ⟨pods, _⟩, ⟨namespaces, _⟩, events, r, client⟩ := s
  cases hp
  cases hn
  let s : System := ⟨config, ⟨pods, .idle⟩, ⟨namespaces, .idle⟩, events, r, client⟩
  cases change with
  | events e => exact absurd rfl hkind
  | pods e =>
    refine ⟨_, of_pods (Feed.Steps.of_apply pods r e) s, ?_, rfl, rfl, rfl⟩
    rw [Monitor.deliver, if_pos hopen]
    simp only [monitor, s, ClusterCache.apply]
    cases (pods.apply e).2 <;> rfl
  | namespaces e =>
    refine ⟨_, of_namespaces (Feed.Steps.of_apply namespaces r e) s, ?_, rfl, rfl, rfl⟩
    rw [Monitor.deliver, if_pos hopen]
    simp only [monitor, s, ClusterCache.apply]
    cases (namespaces.apply e).2 <;> rfl

end System
end SandboxWatch
