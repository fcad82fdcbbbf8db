import SandboxWatch.Registry.Basic
import SandboxWatch.Status.Sandbox

/-!
# SandboxWatch.Monitor.Basic

A monitor answers for the status of sandboxes and tells subscribers when to ask again.

* `Monitor.status`  — the status of a sandbox, computed from what is cached.
* `Monitor.deliver` — one change from a watch: the cache takes it up, then the subscribers of every
  namespace that it touches are woken.
-/

namespace SandboxWatch

structure Monitor where
  config : Config := {}
  cache : ClusterCache := {}
  registry : Registry := {}
deriving DecidableEq

/-- Why a change is not taken up. -/
inductive DeliveryError where
  /-- The feed of this kind is closed. -/
  | feedGone
  | rejected (cause : ApplyError)
deriving DecidableEq, Repr

namespace Monitor

def status (m : Monitor) (ns : String) : Except StatusError SandboxStatus :=
  sandboxStatus m.config m.cache ns

/-- The monitor after a change, and the namespaces it was announced to. -/
def deliver (m : Monitor) (c : Change) : Monitor × Except DeliveryError (List String) :=
  if m.cache.isFeedOpen c.kind then
    match m.cache.apply c with
    | (cache, .ok namespaces) =>
      ({ m with cache, registry := m.registry.notifyAll namespaces }, .ok namespaces)
    | (cache, .error e) => ({ m with cache }, .error (.rejected e))
  else (m, .error .feedGone)

def watch (m : Monitor) (ns : String) : Monitor × WatchId :=
  let (registry, id) := m.registry.watch ns
  ({ m with registry }, id)

end Monitor
end SandboxWatch
