import SandboxWatch.Status.Basic
import SandboxWatch.Status.Pull

/-!
# SandboxWatch.Status.Classify

The status of the service that a pod runs. Three rules are asked in turn; the first that answers
decides, and nothing is taken from the others.

* `initContainerRule` — the first init container that has not completed.
* `mainContainerRule` — the state of the only main container.
* `podPhaseRule`      — the phase of the pod; it always answers.
-/

namespace SandboxWatch

/-- Shown when the image of a container cannot be pulled. -/
def pullFailureMessage : String :=
  "Failed to pull image. Make sure that the image exists, and that Blimp has access to it."

def pullingMessage : String := "Pulling image"

/-- The init container that runs the user's own image. -/
def volumeInitContainer : String := "initialize-volume-from-image"

/-- The phase of a service whose boot is held up by the init container of that name. -/
def initContainerPhase (name : String) : ServicePhase :=
  if name = "copy-busybox" ∨ name = "copy-vcp" ∨ name = volumeInitContainer then
    .initializingVolumes
  else if name = "wait-depends-on" then .waitDependsOn
  else if name = "wait-initial-sync" then .waitSyncBind
  else .unknown

namespace Container

def waiting? (c : Container) : Option Waiting :=
  match c.state with
  | some s => s.waiting
  | none => none

def terminated? (c : Container) : Option Terminated :=
  match c.state with
  | some s => s.terminated
  | none => none

/-- Whether the container waits because its image cannot be pulled. -/
def isPullFailure (c : Container) : Bool :=
  match c.waiting? with
  | some w => w.reason = some "ErrImagePull" ∨ w.reason = some "ImagePullBackOff"
  | none => false

def isCompleted (c : Container) : Bool :=
  match c.terminated? with
  | some t => t.reason = some "Completed"
  | none => false

end Container

namespace Pod

/-- The slot of the pod with the given field path. -/
def slot (p : Pod) (fieldPath : String) : PullTarget :=
  { ns := p.metadata.ns.getD "", pod := p.metadata.name.getD "", fieldPath }

def initContainers (p : Pod) : List Container :=
  match p.status with
  | some s => s.initContainers.getD []
  | none => []

/-- The first init container that has not completed. -/
def blocker? (p : Pod) : Option Container :=
  p.initContainers.find? fun c => !c.isCompleted

/-- The main container, if there is exactly one. -/
def mainContainer? (p : Pod) : Option Container :=
  match p.status with
  | some s =>
    match s.containers with
    | some [c] => some c
    | _ => none
  | none => none

def phase? (p : Pod) : Option String :=
  match p.status with
  | some s => s.phase
  | none => none

end Pod

/-! ## Rules -/

/-- The status while the given init container holds up the boot. -/
def blockedStatus (p : Pod) (events : List Event) (c : Container) : ServiceStatus :=
  let phase := initContainerPhase c.name
  match c.terminated? with
  | some t =>
    (ServiceStatus.ofPhase phase).withMessage ("Unexpected system error: " ++ t.message.getD "")
  | none =>
    if c.name = volumeInitContainer then
      if c.isPullFailure then (ServiceStatus.ofPhase .pending).withMessage pullFailureMessage
      else if isPulling events (p.slot (initContainerPath c.name)) then
        (ServiceStatus.ofPhase .pending).withMessage pullingMessage
      else ServiceStatus.ofPhase phase
    else ServiceStatus.ofPhase phase

def initContainerRule (p : Pod) (events : List Event) : Option ServiceStatus :=
  p.blocker?.map (blockedStatus p events)

def waitingStatus (p : Pod) (events : List Event) (c : Container) (w : Waiting) : ServiceStatus :=
  if c.isPullFailure then (ServiceStatus.ofPhase .pending).withMessage pullFailureMessage
  else
    let message :=
      if isPulling events (p.slot (containerPath c.name)) then some pullingMessage else w.message
    { phase := .pending, message, hasStarted := 0 < c.restartCount }

def mainContainerRule (p : Pod) (events : List Event) : Option ServiceStatus :=
  match p.mainContainer? with
  | none => none
  | some c =>
    match c.state with
    | none => none
    | some s =>
      if s.running then
        some ((ServiceStatus.ofPhase (if c.ready then .running else .unhealthy)).started true)
      else
        match s.waiting with
        | some w => some (waitingStatus p events c w)
        | none =>
          match s.terminated with
          | some t => some { phase := .exited, message := t.message, hasStarted := true }
          | none => none

def podPhaseRule (p : Pod) : ServiceStatus :=
  ServiceStatus.ofPhase <|
    match p.phase? with
    | some "Running" => .running
    | some "Pending" => .pending
    | some "Succeeded" => .exited
    | some "Failed" => .exited
    | _ => .unknown

/-- The status of the service that a pod runs, given the events of its namespace. -/
def classify (p : Pod) (events : List Event) : ServiceStatus :=
  match initContainerRule p events with
  | some s => s
  | none =>
    match mainContainerRule p events with
    | some s => s
    | none => podPhaseRule p

end SandboxWatch
