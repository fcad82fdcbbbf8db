import SandboxWatch.Selector
import SandboxWatch.Time.Duration

/-!
# SandboxWatch.Config

Which pods belong to a sandbox, which label names their service, and how long the first listing may
take.

* `Environment`   — the variables that settings are read from.
* `Config.ofEnvironment` — the settings of an environment; empty and unreadable values count as
  not given.
-/

namespace SandboxWatch

abbrev Environment := NameMap String

/-- The value of a variable that is set and not empty. -/
def Environment.nonempty? (env : Environment) (name : String) : Option String :=
  match env[name]? with
  | some v => if v = "" then none else some v
  | none => none

structure Config where
  memberLabel : String := "blimp.customerPod"
  serviceLabel : String := "blimp.service"
  /-- Without a limit the first listing is waited for without end. -/
  syncTimeout : Option Duration := none
deriving DecidableEq, Repr

namespace Config

/-- A number of seconds, as an option or a variable gives it. -/
def seconds? (text : String) : Option UInt64 := (Text.unsigned? UInt64.size text).map UInt64.ofNat

def ofEnvironment (env : Environment) : Config where
  memberLabel := (Environment.nonempty? env "BERTH_MEMBER_LABEL").getD "blimp.customerPod"
  serviceLabel := (Environment.nonempty? env "BERTH_SERVICE_LABEL").getD "blimp.service"
  syncTimeout :=
    match env["BERTH_SYNC_TIMEOUT_SECS"]? with
    | some text => (seconds? text).map Duration.ofSeconds
    | none => none

/-- The pods of a sandbox carry the member label with the value `true`. -/
def memberSelector (c : Config) : Selector := Selector.empty.insert c.memberLabel "true"

/-! ## Wire form -/

def timeoutToJson (d : Duration) : Json :=
  .obj [("secs", .int d.seconds.toNat), ("nanos", .int d.nanos)]

def toJson (c : Config) : Json :=
  .obj [("member_label", .str c.memberLabel), ("service_label", .str c.serviceLabel),
    ("sync_timeout", match c.syncTimeout with
      | some d => timeoutToJson d
      | none => .null)]

/-- A span from its parts; nanoseconds beyond one second carry into the seconds. -/
def timeoutOfParts? (seconds nanos : Json) : Option Duration := do
  let seconds ← Json.below? UInt64.size seconds
  let nanos ← Json.below? UInt32.size nanos
  Duration.ofParts? seconds nanos

def timeoutOfJson? : Json → Option Duration
  | .obj ms =>
    if ms.length = 2 then
      match Json.Members.get? ms "secs", Json.Members.get? ms "nanos" with
      | some seconds, some nanos => timeoutOfParts? seconds nanos
      | _, _ => none
    else none
  | .arr [seconds, nanos] => timeoutOfParts? seconds nanos
  | _ => none

def ofParts? (memberLabel serviceLabel : Json) (timeout : Option Json) : Option Config := do
  let memberLabel ← memberLabel.string?
  let serviceLabel ← serviceLabel.string?
  let syncTimeout ← Json.optional? timeoutOfJson? timeout
  return { memberLabel, serviceLabel, syncTimeout }

def ofJson? : Json → Option Config
  | .obj ms => do
    let memberLabel ← Json.Members.get? ms "member_label"
    let serviceLabel ← Json.Members.get? ms "service_label"
    ofParts? memberLabel serviceLabel (Json.Members.get? ms "sync_timeout")
  | .arr [memberLabel, serviceLabel, timeout] => ofParts? memberLabel serviceLabel (some timeout)
  | _ => none

end Config
end SandboxWatch
