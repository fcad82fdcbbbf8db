import SandboxWatch.Json.Decode
import SandboxWatch.Time.Instant

/-!
# SandboxWatch.Cluster.Object

The objects that a cluster's API server hands out, as far as a sandbox status depends on them.

* `Metadata`                — name, namespace, version and labels of an object.
* `Pod`, `Event`, `Namespace` — the objects.
* `Container`, `ContainerState` — one container of a pod.
-/

namespace SandboxWatch

abbrev Labels := NameMap String

structure Metadata where
  name : Option String := none
  ns : Option String := none
  version : Option String := none
  labels : Option Labels := none
deriving DecidableEq

/-! ## Pods -/

structure Waiting where
  reason : Option String := none
  message : Option String := none
deriving DecidableEq

structure Terminated where
  reason : Option String := none
  message : Option String := none
deriving DecidableEq

/-- Several of the states may be reported at once. -/
structure ContainerState where
  running : Bool := false
  waiting : Option Waiting := none
  terminated : Option Terminated := none
deriving DecidableEq

structure Container where
  name : String := ""
  ready : Bool := false
  restartCount : Int := 0
  state : Option ContainerState := none
deriving DecidableEq

structure PodStatus where
  phase : Option String := none
  initContainers : Option (List Container) := none
  containers : Option (List Container) := none
deriving DecidableEq

structure Pod where
  metadata : Metadata := {}
  status : Option PodStatus := none
deriving DecidableEq

/-! ## Events -/

/-- The object that an event is about. -/
structure ObjectReference where
  kind : Option String := none
  ns : Option String := none
  name : Option String := none
  fieldPath : Option String := none
deriving DecidableEq

structure Event where
  metadata : Metadata := {}
  involved : ObjectReference := {}
  reason : Option String := none
  lastTimestamp : Option Instant := none
  eventTime : Option Instant := none
  firstTimestamp : Option Instant := none
deriving DecidableEq

/-- The last time an event was seen, or the best substitute for it. -/
def Event.time? (e : Event) : Option Instant :=
  match e.lastTimestamp with
  | some t => some t
  | none =>
    match e.eventTime with
    | some t => some t
    | none => e.firstTimestamp

/-! ## Namespaces -/

structure Namespace where
  metadata : Metadata := {}
  phase : Option String := none
deriving DecidableEq

end SandboxWatch
