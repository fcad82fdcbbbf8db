import SandboxWatch.Json.Decode

/-!
# SandboxWatch.Status.Basic

The status of a sandbox and of the services in it.

* `ServicePhase`, `ServiceStatus` — one service.
* `SandboxPhase`, `SandboxStatus` — a sandbox with its services by name; values are built with
  `doesNotExist`, `terminating` and `running`, and only the last has services.
-/

namespace SandboxWatch

inductive ServicePhase where
  | initializingVolumes
  | waitDependsOn
  | waitSyncBind
  | pending
  | running
  | unhealthy
  | exited
  | unknown
deriving DecidableEq, Repr

namespace ServicePhase

def all : List ServicePhase :=
  [.initializingVolumes, .waitDependsOn, .waitSyncBind, .pending, .running, .unhealthy, .exited,
   .unknown]

def text : ServicePhase → String
  | .initializingVolumes => "INITIALIZING_VOLUMES"
  | .waitDependsOn => "WAIT_DEPENDS_ON"
  | .waitSyncBind => "WAIT_SYNC_BIND"
  | .pending => "PENDING"
  | .running => "RUNNING"
  | .unhealthy => "UNHEALTHY"
  | .exited => "EXITED"
  | .unknown => "UNKNOWN"

end ServicePhase

structure ServiceStatus where
  phase : ServicePhase
  message : Option String := none
  hasStarted : Bool := false
deriving DecidableEq, Repr

namespace ServiceStatus

def ofPhase (phase : ServicePhase) : ServiceStatus := { phase }

def withMessage (s : ServiceStatus) (message : String) : ServiceStatus :=
  { s with message := some message }

def started (s : ServiceStatus) (hasStarted : Bool) : ServiceStatus := { s with hasStarted }

end ServiceStatus

inductive SandboxPhase where
  | doesNotExist
  | terminating
  | running
deriving DecidableEq, Repr

namespace SandboxPhase

def all : List SandboxPhase := [.doesNotExist, .terminating, .running]

def text : SandboxPhase → String
  | .doesNotExist => "DOES_NOT_EXIST"
  | .terminating => "TERMINATING"
  | .running => "RUNNING"

end SandboxPhase

abbrev Services := NameMap ServiceStatus

structure SandboxStatus where
  phase : SandboxPhase
  services : Services := ∅
deriving DecidableEq

namespace SandboxStatus

def doesNotExist : SandboxStatus := { phase := .doesNotExist }

def terminating : SandboxStatus := { phase := .terminating }

def running (services : Services) : SandboxStatus := { phase := .running, services }

end SandboxStatus
end SandboxWatch
