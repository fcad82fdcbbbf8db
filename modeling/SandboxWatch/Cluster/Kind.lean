/-!
# SandboxWatch.Cluster.Kind

The three kinds of objects that are watched, and a value for each of them.
-/

namespace SandboxWatch

inductive Kind where
  | pods
  | events
  | namespaces
deriving DecidableEq, Repr

namespace Kind

/-- In the order in which the kinds are waited for. -/
def all : List Kind := [.pods, .events, .namespaces]

def text : Kind → String
  | .pods => "pods"
  | .events => "events"
  | .namespaces => "namespaces"

def ofText? : String → Option Kind
  | "pods" => some .pods
  | "events" => some .events
  | "namespaces" => some .namespaces
  | _ => none

/-- The name of the kind on the wire. -/
def wire : Kind → String
  | .pods => "Pods"
  | .events => "Events"
  | .namespaces => "Namespaces"

end Kind
end SandboxWatch
