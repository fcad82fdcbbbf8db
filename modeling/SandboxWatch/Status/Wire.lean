import SandboxWatch.Cluster.Kind
import SandboxWatch.Status.Basic

/-!
# SandboxWatch.Status.Wire

Statuses as JSON values.

Written, a status leaves out a missing message and an empty map of services. Read, it may also be
the array of its members in order.
-/

namespace SandboxWatch

/-- A value with a fixed name on the wire: the name, or an object with that name alone and null. -/
def Json.named? {α : Type} (values : List α) (name : α → String) : Json → Option α
  | .str s => values.find? fun a => name a = s
  | .obj [(s, .null)] => values.find? fun a => name a = s
  | _ => none

def ServicePhase.ofJson? : Json → Option ServicePhase := Json.named? all text

def SandboxPhase.ofJson? : Json → Option SandboxPhase := Json.named? all text

def Kind.ofJson? : Json → Option Kind := Json.named? all wire

/-- A map with its names in order. -/
def Json.ofMap {α : Type} (f : α → Json) (map : NameMap α) : Json :=
  .obj (map.toList.map fun e => (e.1, f e.2))

namespace ServiceStatus

def toJson (s : ServiceStatus) : Json :=
  .obj <| [("phase", .str s.phase.text)]
    ++ (match s.message with
        | some m => [("message", .str m)]
        | none => [])
    ++ [("has_started", .bool s.hasStarted)]

/-- The parts of a status; a part that is missing has its default. -/
def ofParts? (phase : Json) (message : Option Json) (hasStarted : Option Json) :
    Option ServiceStatus := do
  let phase ← ServicePhase.ofJson? phase
  let message ← Json.optional? Json.string? message
  let hasStarted ← match hasStarted with
    | none => some false
    | some v => v.bool?
  return { phase, message, hasStarted }

def ofJson? : Json → Option ServiceStatus
  | .obj ms =>
    match Json.Members.get? ms "phase" with
    | some phase =>
      ofParts? phase (Json.Members.get? ms "message") (Json.Members.get? ms "has_started")
    | none => none
  | .arr [phase] => ofParts? phase none none
  | .arr [phase, message] => ofParts? phase (some message) none
  | .arr [phase, message, hasStarted] => ofParts? phase (some message) (some hasStarted)
  | _ => none

end ServiceStatus

namespace SandboxStatus

def toJson (s : SandboxStatus) : Json :=
  .obj <| [("phase", .str s.phase.text)]
    ++ (if s.services.isEmpty then []
        else [("services", Json.ofMap ServiceStatus.toJson s.services)])

def ofParts? (phase : Json) (services : Option Json) : Option SandboxStatus := do
  let phase ← SandboxPhase.ofJson? phase
  let services ← match services with
    | none => some ∅
    | some v => Json.mapOf? ServiceStatus.ofJson? v
  return { phase, services }

def ofJson? : Json → Option SandboxStatus
  | .obj ms =>
    match Json.Members.get? ms "phase" with
    | some phase => ofParts? phase (Json.Members.get? ms "services")
    | none => none
  | .arr [phase] => ofParts? phase none
  | .arr [phase, services] => ofParts? phase (some services)
  | _ => none

/-- The status as one line of JSON, without the line feed. -/
def line (s : SandboxStatus) : String := s.toJson.compact

end SandboxStatus
end SandboxWatch
