import SandboxWatch.Cluster.Kind
import SandboxWatch.Cluster.Wire

/-!
# SandboxWatch.Cluster.Resource

What the three kinds of watched objects have in common, and changes to them.

* `ChangeScope` — the namespace whose subscribers hear of a change to an object.
* `Resource`    — a watched type: its kind, metadata, scope and how it is read.
* `WatchEvent`  — one change reported by the watch of one kind; `Change` is one of any kind.
-/

namespace SandboxWatch

inductive ChangeScope where
  /-- The subscribers of this namespace hear of the change. -/
  | within (ns : String)
  /-- Changes to this kind are not announced. -/
  | untracked
  /-- The object lacks the member that its scope is read from. -/
  | missing (member : String)
deriving DecidableEq, Repr

class Resource (α : Type) where
  kind : Kind
  metadata : α → Metadata
  scope : α → ChangeScope
  reader : Json.Reader α

instance : Resource Pod where
  kind := .pods
  metadata := Pod.metadata
  scope p :=
    match p.metadata.ns with
    | some ns => .within ns
    | none => .missing "metadata.namespace"
  reader := Pod.reader

instance : Resource Event where
  kind := .events
  metadata := Event.metadata
  scope _ := .untracked
  reader := Event.reader

instance : Resource Namespace where
  kind := .namespaces
  metadata := Namespace.metadata
  scope n :=
    match n.metadata.name with
    | some name => .within name
    | none => .missing "metadata.name"
  reader := Namespace.reader

/-! ## Changes -/

inductive WatchEvent (α : Type) where
  | applied (object : α)
  | deleted (object : α)
  /-- A full listing, which replaces all that was known. -/
  | restarted (objects : List α)
deriving DecidableEq

/-- The objects that an event delivers. -/
def WatchEvent.objects {α : Type} : WatchEvent α → List α
  | .applied o => [o]
  | .deleted o => [o]
  | .restarted os => os

def WatchEvent.isRestart {α : Type} : WatchEvent α → Bool
  | .restarted _ => true
  | _ => false

inductive Change where
  | pods (e : WatchEvent Pod)
  | events (e : WatchEvent Event)
  | namespaces (e : WatchEvent Namespace)
deriving DecidableEq

def Change.kind : Change → Kind
  | .pods _ => .pods
  | .events _ => .events
  | .namespaces _ => .namespaces

end SandboxWatch
