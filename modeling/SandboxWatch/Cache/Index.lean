import SandboxWatch.Cluster.Resource
import SandboxWatch.Groups

/-!
# SandboxWatch.Cache.Index

The names of the known objects of each namespace. Objects outside all namespaces are not listed,
and a namespace without objects has no entry.
-/

namespace SandboxWatch

abbrev NamespaceIndex := Groups String

namespace NamespaceIndex

/-- The names listed under a namespace, in order. -/
def names (index : NamespaceIndex) (ns : String) : List String := (Groups.values index ns).toList

theorem mem_names {index : NamespaceIndex} {ns name : String} :
    name ∈ index.names ns ↔ name ∈ Groups.values index ns := by
  simp [names]

variable {α : Type} [Resource α]

/-- The namespace and the name of an object that has both. -/
def entry? (o : α) : Option (String × String) :=
  match (Resource.metadata o).ns, (Resource.metadata o).name with
  | some ns, some name => some (ns, name)
  | _, _ => none

def addObject (index : NamespaceIndex) (o : α) : NamespaceIndex :=
  match entry? o with
  | some (ns, name) => Groups.add index ns name
  | none => index

def write (index : NamespaceIndex) : WatchEvent α → NamespaceIndex
  | .applied o => index.addObject o
  | .deleted o =>
    match entry? o with
    | some (ns, name) => Groups.remove index ns name
    | none => index
  | .restarted os => os.foldl addObject ∅

end NamespaceIndex
end SandboxWatch
