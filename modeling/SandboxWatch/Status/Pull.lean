import SandboxWatch.Cluster.Object

/-!
# SandboxWatch.Status.Pull

Image pulls, read off the events of a namespace.

* `PullTarget`          — the container slot whose pulls are looked for.
* `PullWindow.scan`     — the latest start and the latest completion of its pulls.
* `PullWindow.inProgress` — some pull has started and none has completed since.
-/

namespace SandboxWatch

structure PullTarget where
  ns : String
  pod : String
  fieldPath : String
deriving DecidableEq, Repr

/-- The field path of an init container's slot. -/
def initContainerPath (name : String) : String := "spec.initContainers\x7b" ++ name ++ "\x7d"

/-- The field path of a main container's slot. -/
def containerPath (name : String) : String := "spec.containers\x7b" ++ name ++ "\x7d"

/-- Whether an event is about the target. -/
def PullTarget.isSubjectOf (t : PullTarget) (e : Event) : Bool :=
  e.involved.kind = some "Pod" ∧ e.involved.ns = some t.ns ∧ e.involved.name = some t.pod
    ∧ e.involved.fieldPath = some t.fieldPath

structure PullWindow where
  started : Option Instant := none
  completed : Option Instant := none
deriving DecidableEq, Repr

namespace PullWindow

/-- The later of a time that may be missing and another one. -/
def later (known : Option Instant) (t : Instant) : Option Instant :=
  match known with
  | none => some t
  | some prev => if prev < t then some t else some prev

/-- Takes one event into account. Events about other slots, of other reasons and without a time
do not count. -/
def note (target : PullTarget) (w : PullWindow) (e : Event) : PullWindow :=
  if target.isSubjectOf e then
    match e.time? with
    | none => w
    | some t =>
      if e.reason = some "Pulling" then { w with started := later w.started t }
      else if e.reason = some "Pulled" then { w with completed := later w.completed t }
      else w
  else w

def scan (events : List Event) (target : PullTarget) : PullWindow :=
  events.foldl (note target) {}

def inProgress (w : PullWindow) : Bool :=
  match w.started, w.completed with
  | none, _ => false
  | some _, none => true
  | some started, some completed => completed < started

end PullWindow

def isPulling (events : List Event) (target : PullTarget) : Bool :=
  (PullWindow.scan events target).inProgress

end SandboxWatch
