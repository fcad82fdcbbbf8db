import SandboxWatch.Cache.Index
import SandboxWatch.Cache.Store

/-!
# SandboxWatch.Cache.KindCache

What is known of the objects of one kind, and how an event changes it.

* `KindCache.apply`   — one event: it is counted, written to the store, then to the index, and a
  first full listing marks the cache as synced. An object without a name stops the event before
  anything is written.
* `KindCache.touched` — the namespaces whose subscribers hear of an event, in order.
* `KindCache.listIn`  — the objects of a namespace, in order of their names.
-/

namespace SandboxWatch

inductive CacheError where
  /-- The first full listing has not come yet. -/
  | notSynced (kind : Kind)
  /-- The watch ended before its first full listing came. -/
  | feedClosed (kind : Kind)
deriving DecidableEq, Repr

def CacheError.message : CacheError → String
  | .notSynced k => k.text ++ " cache has not completed its initial listing"
  | .feedClosed k => k.text ++ " watch ended before its initial listing completed"

inductive ApplyError where
  | unnamedObject
deriving DecidableEq, Repr

def ApplyError.message : ApplyError → String
  | .unnamedObject => ".metadata.name missing"

structure FeedCounters where
  events : Nat := 0
  /-- Objects without a scope that were looked at. -/
  dropped : Nat := 0
  errors : Nat := 0
deriving DecidableEq, Repr

structure KindCache (α : Type) where
  store : Store α := ∅
  index : NamespaceIndex := ∅
  synced : Bool := false
  /-- Whether events may still come. -/
  feedOpen : Bool := true
  counters : FeedCounters := {}
deriving DecidableEq

namespace KindCache

variable {α : Type} [Resource α]

def empty : KindCache α := {}

/-! ## Scopes -/

/-- The objects that an event shows: those it delivers, and for a full listing also those known
before it. -/
def shown (c : KindCache α) : WatchEvent α → List α
  | .restarted os => c.store.objects ++ os
  | e => e.objects

def addScope (scopes : NameSet) (o : α) : NameSet :=
  match Resource.scope o with
  | .within ns => scopes.insert ns
  | .untracked => scopes
  | .missing _ => scopes

def lacksScope (o : α) : Bool :=
  match Resource.scope o with
  | .missing _ => true
  | _ => false

/-- The namespaces whose subscribers hear of an event. -/
def touched (c : KindCache α) (e : WatchEvent α) : List String :=
  ((c.shown e).foldl addScope ∅).toList

theorem mem_foldl_addScope {os : List α} {scopes : NameSet} {ns : String} :
    ns ∈ os.foldl addScope scopes ↔ ns ∈ scopes ∨ ∃ o ∈ os, Resource.scope o = .within ns := by
  induction os generalizing scopes with
  | nil => simp
  | cons o rest ih =>
    rw [List.foldl_cons, ih, addScope]
    cases h : Resource.scope o <;> simp [h, Std.ExtTreeSet.mem_insert, or_assoc, or_left_comm]

theorem mem_touched {c : KindCache α} {e : WatchEvent α} {ns : String} :
    ns ∈ c.touched e ↔ ∃ o ∈ c.shown e, Resource.scope o = .within ns := by
  simp [touched, mem_foldl_addScope]

/-! ## Writing -/

def count (c : KindCache α) (e : WatchEvent α) : KindCache α :=
  { c with counters :=
      { c.counters with
        events := c.counters.events + 1
        dropped := c.counters.dropped + (c.shown e).countP lacksScope } }

def writeStore? (c : KindCache α) (e : WatchEvent α) : Option (KindCache α) :=
  match c.store.write? e with
  | some store => some { c with store }
  | none => none

def writeIndex (c : KindCache α) (e : WatchEvent α) : KindCache α :=
  { c with index := c.index.write e }

def markSynced (c : KindCache α) (e : WatchEvent α) : KindCache α :=
  { c with synced := c.synced || e.isRestart }

/-- The cache after an event, and the namespaces to announce it to. -/
def apply (c : KindCache α) (e : WatchEvent α) : KindCache α × Except ApplyError (List String) :=
  match (c.count e).writeStore? e with
  | some stored => ((stored.writeIndex e).markSynced e, .ok (c.touched e))
  | none => (c.count e, .error .unnamedObject)

def fail (c : KindCache α) : KindCache α :=
  { c with counters := { c.counters with errors := c.counters.errors + 1 } }

def closeFeed (c : KindCache α) : KindCache α := { c with feedOpen := false }

/-! ## Reading -/

def checkSynced (c : KindCache α) : Except CacheError Unit :=
  if c.synced then .ok () else .error (.notSynced (Resource.kind α))

def lookup? (c : KindCache α) (ns name : String) : Option α := c.store.get? ⟨some ns, name⟩

/-- The objects behind the names listed under a namespace. -/
def listing (c : KindCache α) (ns : String) : List α := (c.index.names ns).filterMap (c.lookup? ns)

def listIn (c : KindCache α) (ns : String) : Except CacheError (List α) :=
  match c.checkSynced with
  | .ok () => .ok (c.listing ns)
  | .error e => .error e

/-- The object of that name outside all namespaces. -/
def getUnscoped (c : KindCache α) (name : String) : Except CacheError (Option α) :=
  match c.checkSynced with
  | .ok () => .ok (c.store.get? ⟨none, name⟩)
  | .error e => .error e

end KindCache
end SandboxWatch
