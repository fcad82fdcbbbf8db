import SandboxWatch.Cluster.Resource

/-!
# SandboxWatch.Cache.Store

The objects of one kind that are known, by namespace and name.

* `ObjectKey`    — a name within a namespace or outside all of them.
* `Store.write?` — the store after an event; `none` when an object that the event delivers has no
  name, in which case nothing of it is written.
* `Store.get?`   — the object of a key, else the one of that name outside all namespaces.
-/

namespace SandboxWatch

structure ObjectKey where
  ns : Option String
  name : String
deriving DecidableEq, Repr

namespace ObjectKey

instance : Ord ObjectKey :=
  ⟨compareLex (compareOn ObjectKey.ns) (compareOn ObjectKey.name)⟩

instance : Std.TransOrd ObjectKey :=
  inferInstanceAs (Std.TransCmp (compareLex (compareOn ObjectKey.ns) (compareOn ObjectKey.name)))

instance : Std.LawfulEqOrd ObjectKey where
  eq_of_compare {a b} h := by
    have h' : (compareOn ObjectKey.ns a b).then (compareOn ObjectKey.name a b) = .eq := h
    rw [Ordering.then_eq_eq] at h'
    obtain ⟨hns, hname⟩ := h'
    have hns : a.ns = b.ns := Std.LawfulEqOrd.eq_of_compare hns
    have hname : a.name = b.name := Std.LawfulEqOrd.eq_of_compare hname
    cases a; cases b; simp_all

def unscoped (k : ObjectKey) : ObjectKey := { k with ns := none }

/-- The key of an object that has a name. -/
def of? {α : Type} [Resource α] (o : α) : Option ObjectKey :=
  match (Resource.metadata o).name with
  | some name => some ⟨(Resource.metadata o).ns, name⟩
  | none => none

end ObjectKey

abbrev Store (α : Type) := Std.ExtTreeMap ObjectKey α

namespace Store

variable {α : Type}

def get? (s : Store α) (k : ObjectKey) : Option α :=
  match s[k]? with
  | some o => some o
  | none => s[k.unscoped]?

def objects (s : Store α) : List α := s.toList.map (·.2)

variable [Resource α]

def insert? (s : Store α) (o : α) : Option (Store α) :=
  match ObjectKey.of? o with
  | some k => some (s.insert k o)
  | none => none

/-- Inserts objects in turn; of two with one key the later one stays. -/
def insertAll? (s : Store α) : List α → Option (Store α)
  | [] => some s
  | o :: rest =>
    match s.insert? o with
    | some s' => insertAll? s' rest
    | none => none

def write? (s : Store α) : WatchEvent α → Option (Store α)
  | .applied o => s.insert? o
  | .deleted o =>
    match ObjectKey.of? o with
    | some k => some (s.erase k)
    | none => none
  | .restarted os => insertAll? ∅ os

/-! ## Objects without a name -/

theorem of?_eq_none_iff {o : α} : ObjectKey.of? o = none ↔ (Resource.metadata o).name = none := by
  unfold ObjectKey.of?
  split <;> simp_all

theorem insertAll?_eq_none_iff {s : Store α} {os : List α} :
    s.insertAll? os = none ↔ ∃ o ∈ os, (Resource.metadata o).name = none := by
  induction os generalizing s with
  | nil => simp [insertAll?]
  | cons o rest ih =>
    cases hk : ObjectKey.of? o with
    | none => simp [insertAll?, insert?, hk, of?_eq_none_iff.mp hk]
    | some k =>
      have hname : (Resource.metadata o).name ≠ none := fun h => by
        simp [of?_eq_none_iff.mpr h] at hk
      simp [insertAll?, insert?, hk, ih, hname]

/-- An event is refused exactly when some object that it delivers has no name. -/
theorem write?_eq_none_iff {s : Store α} {e : WatchEvent α} :
    s.write? e = none ↔ ∃ o ∈ e.objects, (Resource.metadata o).name = none := by
  cases e with
  | restarted os => exact insertAll?_eq_none_iff
  | applied o =>
    rw [write?, insert?]
    cases hk : ObjectKey.of? o <;> simp [WatchEvent.objects, ← of?_eq_none_iff, hk]
  | deleted o =>
    rw [write?]
    cases hk : ObjectKey.of? o <;> simp [WatchEvent.objects, ← of?_eq_none_iff, hk]

end Store
end SandboxWatch
