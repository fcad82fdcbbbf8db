import SandboxWatch.Config
import SandboxWatch.Telemetry.Address
import SandboxWatch.Telemetry.LogFilter
import SandboxWatch.Text.Quoted

/-!
# SandboxWatch.Telemetry.Settings

What is logged, and where metrics can be fetched.

* `Telemetry.ofEnvironment` — the settings of an environment.
* `Telemetry.directives`    — the log filter: the one that is set, else warnings only, apart from
  the program's own parts, which say more the more verbose they are asked to be.
* `Telemetry.prepare`       — settings and filter together, as a run of the program needs them.
-/

namespace SandboxWatch

/-- Why the program cannot log or report metrics. -/
inductive TelemetryError where
  | badAddress (text : String)
  | badFilter (filter : String)
deriving DecidableEq, Repr

namespace TelemetryError

def message : TelemetryError → String
  | .badAddress text => "BERTH_METRICS_ADDR=" ++ text ++ ": expected host:port"
  | .badFilter filter => "invalid log filter " ++ Text.quoted filter

/-- The message with the reason why an address cannot be read. -/
def chain : TelemetryError → String
  | .badAddress text => message (.badAddress text) ++ ": invalid socket address syntax"
  | e => message e

end TelemetryError

structure Telemetry where
  log : Option String := none
  metricsAddress : Option SocketAddress := none
deriving DecidableEq, Repr

namespace Telemetry

def ofEnvironment (env : Environment) : Except TelemetryError Telemetry :=
  let log := Environment.nonempty? env "BERTH_LOG"
  match Environment.nonempty? env "BERTH_METRICS_ADDR" with
  | none => .ok { log }
  | some text =>
    match SocketAddress.read? text with
    | some address => .ok { log, metricsAddress := some address }
    | none => .error (.badAddress text)

/-- The parts of the program that log. -/
def targets : List String :=
  ["berthctl", "berth_api", "berth_kubehub", "berth_registry", "berth_status"]

def levelFor : Nat → String
  | 0 => "info"
  | 1 => "debug"
  | _ => "trace"

def directives (t : Telemetry) (verbose : Nat) : String :=
  match t.log with
  | some filter => filter
  | none => String.intercalate "," ("warn" :: targets.map fun t => t ++ "=" ++ levelFor verbose)

/-- The settings of an environment and its log filter, both checked. -/
def prepare (env : Environment) (verbose : Nat) : Except TelemetryError (Telemetry × String) :=
  match ofEnvironment env with
  | .error e => .error e
  | .ok t =>
    let filter := t.directives verbose
    if LogFilter.isValid filter then .ok (t, filter) else .error (.badFilter filter)

end Telemetry
end SandboxWatch
