import SandboxWatch.Monitor.Basic
import SandboxWatch.Watch.Timeline

/-!
# SandboxWatch.Watch.Rehearsal

A monitor whose three loops run against a server that follows a script, on a clock that is moved by
hand.

* `Rehearsal.start` — starts the loops and waits for the first listings of all kinds.
* `Rehearsal.sleep` — lets time pass.
-/

namespace SandboxWatch

structure ClusterScript where
  pods : Script Pod := {}
  events : Script Event := {}
  namespaces : Script Namespace := {}

inductive Request where
  | list (kind : Kind) (token : Option String)
  | watch (kind : Kind) (version : String)
deriving DecidableEq, Repr

inductive Activity where
  | request (r : Request)
  | change (c : Change)
  | error

structure Entry where
  time : Nat
  kind : Kind
  activity : Activity

structure Rehearsal where
  monitor : Monitor
  clock : Nat := 0
  /-- What is still to come, in order of time. -/
  ahead : List Entry
  requests : List Request := []

def Occurrence.activity {α : Type} (kind : Kind) (change : WatchEvent α → Change) :
    Occurrence α → Activity
  | .listRequest token => .request (.list kind token)
  | .watchRequest version => .request (.watch kind version)
  | .event e => .change (change e)
  | .error => .error

/-- The entries of one loop that starts at the beginning of time. -/
def Script.entries {α : Type} [Resource α] (s : Script α) (change : WatchEvent α → Change) :
    List Entry :=
  (timeline 0 .start s.lists s.watches).map fun (time, o) =>
    ⟨time, Resource.kind α, o.activity (Resource.kind α) change⟩

/-- The entries of all loops in order of time. -/
def ClusterScript.entries (s : ClusterScript) : List Entry :=
  let merge (a b : List Entry) := List.merge a b fun x y => x.time ≤ y.time
  merge (merge (s.pods.entries .pods) (s.events.entries .events))
    (s.namespaces.entries .namespaces)

namespace Rehearsal

/-- Does what an entry says. A loop whose feed is closed does nothing, and a loop whose change is
rejected ends. -/
def perform (r : Rehearsal) (e : Entry) : Rehearsal :=
  if r.monitor.cache.isFeedOpen e.kind then
    match e.activity with
    | .request q => { r with requests := r.requests ++ [q] }
    | .error => { r with monitor := { r.monitor with cache := r.monitor.cache.fail e.kind } }
    | .change c =>
      match r.monitor.deliver c with
      | (m, .ok _) => { r with monitor := m }
      | (m, .error _) => { r with monitor := { m with cache := m.cache.closeFeed e.kind } }
  else r

/-- Does all that comes before the given time. -/
def runUntil (r : Rehearsal) (time : Nat) : List Entry → Rehearsal
  | [] => { r with clock := time, ahead := [] }
  | e :: rest =>
    if e.time < time then (r.perform e).runUntil time rest
    else { r with clock := time, ahead := e :: rest }

def sleep (r : Rehearsal) (milliseconds : Nat) : Rehearsal :=
  r.runUntil (r.clock + milliseconds) r.ahead

/-! ## Start -/

inductive Start where
  | ready (r : Rehearsal)
  | failed (cause : StatusError) (r : Rehearsal)
  /-- Nothing has come of it for an hour. -/
  | pending (r : Rehearsal)

/-- The wait is given up after this time even without a limit. -/
def patience : Nat := 3600000

def expired (r : Rehearsal) : Start :=
  match r.monitor.config.syncTimeout with
  | some limit =>
    if 1000 * limit.seconds.toNat ≤ patience then .failed (.syncTimeout limit) r else .pending r
  | none => .pending r

/-- The time at which the wait ends at the latest. -/
def deadline (c : Config) : Nat :=
  match c.syncTimeout with
  | some limit => min (1000 * limit.seconds.toNat) patience
  | none => patience

/-- The end of the wait, once the barrier is decided. -/
def decided? (r : Rehearsal) : Option Start :=
  match r.monitor.cache.barrier with
  | .ready => some (.ready r)
  | .closed k => some (.failed (.cache .start (.feedClosed k)) r)
  | .waiting => none

/-- Waits until the barrier is decided. It is asked when all that happens at one time is done. -/
def await (r : Rehearsal) (stop : Nat) : List Entry → Start
  | [] =>
    let last := { r with ahead := [] }
    last.decided?.getD last.expired
  | e :: rest =>
    let now := { r with ahead := e :: rest }
    match if e.time = r.clock then none else now.decided? with
    | some outcome => outcome
    | none =>
      if e.time < stop then await { r.perform e with clock := e.time } stop rest else now.expired

def start (config : Config) (script : ClusterScript) : Start :=
  let entries := script.entries
  await { monitor := { config }, ahead := entries } (deadline config) entries

end Rehearsal
end SandboxWatch
