import SandboxWatch.Cache.ClusterCache
import SandboxWatch.Config
import SandboxWatch.Status.Classify

/-!
# SandboxWatch.Status.Sandbox

The status of a sandbox, read off a cache.

* `StatusError`   — why there is no answer.
* `sandboxStatus` — the answer for a namespace: whether it exists, whether it is going away, and
  the services that its member pods name.
-/

namespace SandboxWatch

/-- What was being done when the cache had no answer. -/
inductive Operation where
  | start
  | getSandbox
  | getServices
deriving DecidableEq, Repr

namespace Operation

def text : Operation → String
  | .start => "start"
  | .getSandbox => "get sandbox"
  | .getServices => "get services"

def ofText? : String → Option Operation
  | "start" => some .start
  | "get sandbox" => some .getSandbox
  | "get services" => some .getServices
  | _ => none

end Operation

inductive StatusError where
  | cache (operation : Operation) (cause : CacheError)
  | syncTimeout (limit : Duration)
deriving DecidableEq, Repr

def StatusError.message : StatusError → String
  | .cache operation cause => operation.text ++ ": " ++ cause.message
  | .syncTimeout limit => "initial cache sync did not complete within " ++ limit.text

def Namespace.isTerminating (n : Namespace) : Bool := n.phase = some "Terminating"

/-- The service that a pod names with the given label. -/
def Pod.service? (serviceLabel : String) (p : Pod) : Option String :=
  match p.metadata.labels with
  | some labels => labels[serviceLabel]?
  | none => none

/-- Pods in order of their names, so that every listing settles a service that two pods name alike. -/
def byName (pods : List Pod) : List Pod :=
  pods.mergeSort fun a b => (compare a.metadata.name b.metadata.name).isLE

/-- Takes in the service of one pod; a pod that names none is passed over. -/
def addService (serviceLabel : String) (events : List Event) (services : Services) (p : Pod) :
    Services :=
  match p.service? serviceLabel with
  | some name => services.insert name (classify p events)
  | none => services

/-- The services that pods name; of two pods that name one service the later one counts. -/
def servicesOf (serviceLabel : String) (events : List Event) (pods : List Pod) : Services :=
  pods.foldl (addService serviceLabel events) ∅

/-- The events of a namespace; while they are not known, pulls are not detected. -/
def knownEvents (cache : ClusterCache) (ns : String) : List Event :=
  match cache.listEvents ns with
  | .ok events => events
  | .error _ => []

def sandboxStatus (config : Config) (cache : ClusterCache) (ns : String) :
    Except StatusError SandboxStatus :=
  match cache.getNamespace ns with
  | .error e => .error (.cache .getSandbox e)
  | .ok none => .ok .doesNotExist
  | .ok (some n) =>
    if n.isTerminating then .ok .terminating
    else
      match cache.listPods ns config.memberSelector with
      | .error e => .error (.cache .getServices e)
      | .ok pods =>
        .ok (.running (servicesOf config.serviceLabel (knownEvents cache ns) (byName pods)))

end SandboxWatch
