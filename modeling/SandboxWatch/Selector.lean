import SandboxWatch.Cluster.Object
import SandboxWatch.Status.Wire

/-!
# SandboxWatch.Selector

Label selectors that ask for exact values.

* `Selector.insert`  — asks for one more label; of two values for one label the later one counts.
* `Selector.accepts` — whether all that is asked for is there.
-/

namespace SandboxWatch

structure Selector where
  wanted : Labels := ∅
deriving DecidableEq

namespace Selector

def empty : Selector := {}

def insert (s : Selector) (key value : String) : Selector := ⟨s.wanted.insert key value⟩

def ofPairs (pairs : List (String × String)) : Selector :=
  pairs.foldl (fun s p => s.insert p.1 p.2) empty

/-- A missing label map has no labels; a selector that asks for nothing matches everything. -/
def accepts (s : Selector) (labels : Option Labels) : Bool :=
  s.wanted.toList.all fun e => (labels.getD ∅)[e.1]? = some e.2

theorem accepts_iff {s : Selector} {labels : Option Labels} :
    s.accepts labels = true ↔
      ∀ key value : String, s.wanted[key]? = some value → (labels.getD ∅)[key]? = some value := by
  simp [accepts, List.all_eq_true, Std.ExtTreeMap.mem_toList_iff_getElem?_eq_some]

theorem getElem?_wanted_insert {s : Selector} {key value other : String} :
    (s.insert key value).wanted[other]? = if key = other then some value else s.wanted[other]? := by
  simp [insert, Std.ExtTreeMap.getElem?_insert]

/-- The selector as `key=value` pairs, in order of the keys. -/
def text (s : Selector) : String :=
  String.intercalate "," (s.wanted.toList.map fun e => e.1 ++ "=" ++ e.2)

def toJson (s : Selector) : Json := Json.ofMap .str s.wanted

def ofJson? (v : Json) : Option Selector := (Json.mapOf? Json.string? v).map Selector.mk

end Selector
end SandboxWatch
