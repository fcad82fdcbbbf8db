import Std.Data.ExtTreeMap
import Std.Data.ExtTreeSet

/-!
# SandboxWatch.NameMap

Maps and sets of names, in the order of their code points.
-/

namespace SandboxWatch

abbrev NameMap (α : Type) := Std.ExtTreeMap String α

abbrev NameSet := Std.ExtTreeSet String

end SandboxWatch
