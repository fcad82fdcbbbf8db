import SandboxWatch.Json.Basic
import SandboxWatch.NameMap

/-!
# SandboxWatch.Json.Decode

Reading typed values from JSON values. A reader answers `none` when the value has another shape.

* `string?`, `bool?`, `within?` — values of one type.
* `listOf?`, `mapOf?` — arrays, and objects as maps.
* `optional?`         — a value that may be missing or null.
-/

namespace SandboxWatch

namespace Json

def string? : Json → Option String
  | .str s => some s
  | _ => none

def bool? : Json → Option Bool
  | .bool b => some b
  | _ => none

/-- A whole number from `low` to `high`. -/
def within? (low high : Int) : Json → Option Int
  | .int i => if low ≤ i ∧ i ≤ high then some i else none
  | _ => none

def int32? : Json → Option Int := within? (-2147483648) 2147483647

def int64? : Json → Option Int := within? (-9223372036854775808) 9223372036854775807

/-- A whole number from zero to below `bound`. -/
def below? (bound : Nat) (v : Json) : Option Nat :=
  (within? 0 (bound - 1) v).map Int.toNat

/-- Reads every element, or none at all. -/
def allOf? {α β : Type} (f : α → Option β) : List α → Option (List β)
  | [] => some []
  | a :: rest =>
    match f a with
    | some b => (allOf? f rest).map (b :: ·)
    | none => none

def listOf? {α : Type} (f : Json → Option α) : Json → Option (List α)
  | .arr items => allOf? f items
  | _ => none

def mapOf? {α : Type} (f : Json → Option α) : Json → Option (NameMap α)
  | .obj ms =>
    (allOf? (fun (m : String × Json) => (f m.2).map (m.1, ·)) ms).map fun entries =>
      entries.foldl (fun map e => map.insert e.1 e.2) ∅
  | _ => none

/-- A value that may be missing or null. -/
def optional? {α : Type} (f : Json → Option α) : Option Json → Option (Option α)
  | none => some none
  | some .null => some none
  | some v => (f v).map some

end Json
end SandboxWatch
