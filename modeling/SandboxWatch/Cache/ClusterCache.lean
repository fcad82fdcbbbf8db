import SandboxWatch.Cache.KindCache
import SandboxWatch.Selector

/-!
# SandboxWatch.Cache.ClusterCache

What is known of a cluster: its pods, events and namespaces.

* `ClusterCache.apply`   — one change of any kind.
* `ClusterCache.barrier` — whether the first listings of all kinds have come, asked in the order
  pods, events, namespaces.
* `ClusterCache.getNamespace`, `listPods`, `listEvents` — the answers of a synced cache.
-/

namespace SandboxWatch

structure ClusterCache where
  pods : KindCache Pod := {}
  events : KindCache Event := {}
  namespaces : KindCache Namespace := {}
deriving DecidableEq

/-- Where the wait for the first listings stands. -/
inductive Barrier where
  | ready
  | waiting
  /-- This kind's watch ended before its first listing. -/
  | closed (kind : Kind)
deriving DecidableEq, Repr

namespace ClusterCache

def empty : ClusterCache := {}

/-! ## Writing -/

def apply (c : ClusterCache) : Change → ClusterCache × Except ApplyError (List String)
  | .pods e => let (k, r) := c.pods.apply e; ({ c with pods := k }, r)
  | .events e => let (k, r) := c.events.apply e; ({ c with events := k }, r)
  | .namespaces e => let (k, r) := c.namespaces.apply e; ({ c with namespaces := k }, r)

def fail (c : ClusterCache) : Kind → ClusterCache
  | .pods => { c with pods := c.pods.fail }
  | .events => { c with events := c.events.fail }
  | .namespaces => { c with namespaces := c.namespaces.fail }

def closeFeed (c : ClusterCache) : Kind → ClusterCache
  | .pods => { c with pods := c.pods.closeFeed }
  | .events => { c with events := c.events.closeFeed }
  | .namespaces => { c with namespaces := c.namespaces.closeFeed }

def isFeedOpen (c : ClusterCache) : Kind → Bool
  | .pods => c.pods.feedOpen
  | .events => c.events.feedOpen
  | .namespaces => c.namespaces.feedOpen

def counters (c : ClusterCache) : Kind → FeedCounters
  | .pods => c.pods.counters
  | .events => c.events.counters
  | .namespaces => c.namespaces.counters

/-! ## Reading -/

def isKindSynced (c : ClusterCache) : Kind → Bool
  | .pods => c.pods.synced
  | .events => c.events.synced
  | .namespaces => c.namespaces.synced

def isSynced (c : ClusterCache) : Bool :=
  c.pods.synced && c.events.synced && c.namespaces.synced

theorem isSynced_iff {c : ClusterCache} :
    c.isSynced = true ↔
      c.pods.synced = true ∧ c.events.synced = true ∧ c.namespaces.synced = true := by
  simp [isSynced, and_assoc]

/-- The wait for the given kinds in turn: the first that is not synced decides. -/
def barrierOf (c : ClusterCache) : List Kind → Barrier
  | [] => .ready
  | k :: rest =>
    if c.isKindSynced k then c.barrierOf rest
    else if c.isFeedOpen k then .waiting
    else .closed k

def barrier (c : ClusterCache) : Barrier := c.barrierOf Kind.all

def getNamespace (c : ClusterCache) (name : String) : Except CacheError (Option Namespace) :=
  c.namespaces.getUnscoped name

/-- The pods of a namespace that a selector accepts, in order of their names. -/
def listPods (c : ClusterCache) (ns : String) (selector : Selector) :
    Except CacheError (List Pod) :=
  match c.pods.listIn ns with
  | .ok pods => .ok (pods.filter fun p => selector.accepts p.metadata.labels)
  | .error e => .error e

def listEvents (c : ClusterCache) (ns : String) : Except CacheError (List Event) :=
  c.events.listIn ns

end ClusterCache
end SandboxWatch
