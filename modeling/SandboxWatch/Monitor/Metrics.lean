import SandboxWatch.Monitor.Basic

/-!
# SandboxWatch.Monitor.Metrics

The counters of a monitor by name. A counter that has not been touched is not listed.
-/

namespace SandboxWatch

/-- The name of a counter that is kept for each kind. -/
def kindCounter (name : String) (k : Kind) : String := name ++ "\x7bkind=" ++ k.text ++ "\x7d"

/-- The counters of one kind. -/
def FeedCounters.entries (c : FeedCounters) (k : Kind) : List (String × Nat) :=
  [(kindCounter "kubehub_events_total" k, c.events),
   (kindCounter "kubehub_events_dropped_total" k, c.dropped),
   (kindCounter "kubehub_watch_errors_total" k, c.errors)]

namespace Monitor

/-- Counters that have been raised, and the number of registrations if it has been recorded. -/
def metrics (m : Monitor) : List (String × Nat) :=
  let counters :=
    Kind.all.flatMap (fun k => (m.cache.counters k).entries k)
      ++ [("registry_notify_total", m.registry.delivered),
          ("registry_notify_coalesced_total", m.registry.coalesced)]
  let gauge :=
    match m.registry.gauge with
    | some n => [("registry_watchers", n)]
    | none => []
  counters.filter (fun c => c.2 ≠ 0) ++ gauge

end Monitor
end SandboxWatch
