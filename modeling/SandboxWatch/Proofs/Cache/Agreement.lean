import SandboxWatch.Cache.ClusterCache
import SandboxWatch.Proofs.Cache.Contents

/-!
# SandboxWatch.Proofs.Cache.Agreement

The index lists exactly the names under which the store holds objects of a namespace. Every event
keeps it so, and then a listing finds every name that it looks up under the very key it asks for.

* `Agree.note`              — one event, seen from what is held and what is listed.
* `KindCache.apply_named`, `apply_unnamed` — all that applying an event does.
* `ClusterCache.Reachable`  — the caches that changes, errors and ends of watches lead to; all three
  kinds of such a cache are consistent.
* `KindCache.lists_listing` — a listing of a consistent cache.
-/

namespace SandboxWatch

variable {α : Type} [Resource α]

/-! ## The index -/

namespace NamespaceIndex

theorem entry?_eq_some_iff {o : α} {ns name : String} :
    entry? o = some (ns, name) ↔ ObjectKey.of? o = some ⟨some ns, name⟩ := by
  rw [ObjectKey.of?_eq_some_iff]
  unfold entry?
  cases (Resource.metadata o).ns <;> cases (Resource.metadata o).name <;> simp

@[simp] theorem names_empty (ns : String) : names ∅ ns = [] := by
  simp [names, Groups.values]

theorem mem_names_addObject {index : NamespaceIndex} {o : α} {ns name : String} :
    name ∈ (index.addObject o).names ns ↔
      ObjectKey.of? o = some ⟨some ns, name⟩ ∨ name ∈ index.names ns := by
  rw [← entry?_eq_some_iff, addObject]
  cases h : entry? o with
  | none => simp
  | some e =>
    obtain ⟨ns', name'⟩ := e
    simp [mem_names, Groups.mem_values_add, eq_comm]

theorem mem_names_foldl_addObject {index : NamespaceIndex} {os : List α} {ns name : String} :
    name ∈ (os.foldl addObject index).names ns ↔
      (∃ o ∈ os, ObjectKey.of? o = some ⟨some ns, name⟩) ∨ name ∈ index.names ns := by
  induction os generalizing index with
  | nil => simp
  | cons o rest ih =>
    rw [List.foldl_cons, ih, mem_names_addObject]
    simp [or_assoc, or_left_comm]

theorem mem_names_deleted {index : NamespaceIndex} {o : α} {ns name : String} :
    name ∈ (index.write (.deleted o)).names ns ↔
      ObjectKey.of? o ≠ some ⟨some ns, name⟩ ∧ name ∈ index.names ns := by
  rw [ne_eq, ← entry?_eq_some_iff, write]
  cases h : entry? o with
  | none => simp
  | some e =>
    obtain ⟨ns', name'⟩ := e
    simp [mem_names, Groups.mem_values_remove, and_comm, eq_comm]

theorem mem_names_write {index : NamespaceIndex} {e : WatchEvent α} {ns name : String} :
    name ∈ (index.write e).names ns ↔ e.Leaves ⟨some ns, name⟩ (name ∈ index.names ns) := by
  cases e with
  | applied o => exact mem_names_addObject
  | deleted o => exact mem_names_deleted
  | restarted os =>
    rw [write, mem_names_foldl_addObject, WatchEvent.Leaves]
    simp

theorem ordered_names (index : NamespaceIndex) (ns : String) :
    (index.names ns).Pairwise fun x y => Text.bytes x < Text.bytes y :=
  Text.ordered_toList (Groups.values index ns)

end NamespaceIndex

/-! ## Agreement -/

/-- What is held and what is listed fit together. -/
structure Agree (m : Contents α) (index : NamespaceIndex) : Prop where
  keyed {k : ObjectKey} {o : α} : m k = some o → ObjectKey.of? o = some k
  listed {ns name : String} : name ∈ index.names ns ↔ (m ⟨some ns, name⟩).isSome

theorem Agree.nothing : Agree (Contents.nothing : Contents α) ∅ where
  keyed h := by cases h
  listed := by simp [Contents.nothing]

theorem Agree.note {m : Contents α} {index : NamespaceIndex} (h : Agree m index)
    (e : WatchEvent α) : Agree (m.note e) (index.write e) where
  keyed hk := Contents.of?_of_note h.keyed hk
  listed {ns name} := by
    rw [NamespaceIndex.mem_names_write, h.listed, Contents.isSome_note]

/-! ## Applying an event -/

namespace KindCache

variable {c : KindCache α} {e : WatchEvent α}

theorem apply_named (c : KindCache α) (h : e.Named) :
    ∃ store, c.store.write? e = some store ∧
      c.apply e =
        ({ c.count e with
            store
            index := c.index.write e
            synced := c.synced || e.isRestart },
          .ok (c.touched e)) := by
  cases hs : c.store.write? e with
  | none =>
    obtain ⟨o, ho, hname⟩ := Store.write?_eq_none_iff.mp hs
    exact absurd hname (h o ho)
  | some store =>
    refine ⟨store, rfl, ?_⟩
    simp [apply, writeStore?, writeIndex, markSynced, count, hs]

theorem apply_unnamed (c : KindCache α) (h : ¬e.Named) :
    c.apply e = (c.count e, .error .unnamedObject) := by
  have hs : c.store.write? e = none := by
    rw [Store.write?_eq_none_iff]
    simpa [WatchEvent.Named] using h
  simp [apply, writeStore?, count, hs]

def Consistent (c : KindCache α) : Prop := Agree c.store.contents c.index

theorem consistent_empty : (empty : KindCache α).Consistent := by
  show Agree (∅ : Store α).contents ∅
  rw [Store.contents_empty]
  exact Agree.nothing

theorem Consistent.apply (h : c.Consistent) (e : WatchEvent α) : (c.apply e).1.Consistent := by
  by_cases hn : e.Named
  · obtain ⟨store, hs, happly⟩ := c.apply_named hn
    rw [happly]
    show Agree store.contents (c.index.write e)
    rw [Store.contents_write? hs]
    exact Agree.note h e
  · rw [c.apply_unnamed hn]
    exact h

/-! ## Reading -/

theorem listIn_synced (h : c.synced = true) (ns : String) : c.listIn ns = .ok (c.listing ns) := by
  simp [listIn, checkSynced, h]

theorem listIn_unsynced (h : c.synced = false) (ns : String) :
    c.listIn ns = .error (.notSynced (Resource.kind α)) := by
  simp [listIn, checkSynced, h]

theorem getUnscoped_synced (h : c.synced = true) (name : String) :
    c.getUnscoped name = .ok (c.store.contents ⟨none, name⟩) := by
  simp only [getUnscoped, checkSynced, h, if_true, Store.get?, ObjectKey.unscoped, Store.contents]
  cases c.store[(⟨none, name⟩ : ObjectKey)]? <;> rfl

theorem getUnscoped_unsynced (h : c.synced = false) (name : String) :
    c.getUnscoped name = .error (.notSynced (Resource.kind α)) := by
  simp [getUnscoped, checkSynced, h]

omit [Resource α] in
/-- What is held under the key itself is found; the object outside all namespaces is not taken. -/
theorem lookup?_of_held {ns name : String} {o : α}
    (h : c.store.contents ⟨some ns, name⟩ = some o) : c.lookup? ns name = some o := by
  have h : c.store[(⟨some ns, name⟩ : ObjectKey)]? = some o := h
  simp [KindCache.lookup?, Store.get?, h]

theorem Consistent.lookup? (h : c.Consistent) {ns name : String} (hname : name ∈ c.index.names ns) :
    c.lookup? ns name = c.store.contents ⟨some ns, name⟩ := by
  obtain ⟨o, ho⟩ := Option.isSome_iff_exists.mp (h.listed.mp hname)
  rw [lookup?_of_held ho, ho]

theorem Consistent.lists_listing (h : c.Consistent) (ns : String) :
    c.store.contents.Lists ns (c.listing ns) := by
  refine ⟨fun o => ?_, ?_⟩
  · rw [listing, List.mem_filterMap]
    constructor
    · rintro ⟨name, hname, ho⟩
      exact ⟨name, h.lookup? hname ▸ ho⟩
    · rintro ⟨name, ho⟩
      have hname : name ∈ c.index.names ns := h.listed.mpr (by simp [ho])
      exact ⟨name, hname, (h.lookup? hname).trans ho⟩
  · refine List.pairwise_filterMap.mpr ((c.index.ordered_names ns).imp_of_mem ?_)
    intro x y hx hy hxy a ha b hb
    rw [h.lookup? hx] at ha
    rw [h.lookup? hy] at hb
    exact ⟨x, y, (ObjectKey.of?_eq_some_iff.mp (h.keyed ha)).2,
      (ObjectKey.of?_eq_some_iff.mp (h.keyed hb)).2, hxy⟩

end KindCache

/-! ## All kinds -/

namespace ClusterCache

/-- The caches that changes, errors and ends of watches lead to, in any order. -/
inductive Reachable : ClusterCache → Prop where
  | empty : Reachable empty
  | apply {c : ClusterCache} (change : Change) : Reachable c → Reachable (c.apply change).1
  | fail {c : ClusterCache} (k : Kind) : Reachable c → Reachable (c.fail k)
  | closeFeed {c : ClusterCache} (k : Kind) : Reachable c → Reachable (c.closeFeed k)

/-- The cache that has seen nothing but these changes. -/
def ofHistory (h : List Change) : ClusterCache := h.foldl (fun c x => (c.apply x).1) empty

theorem Reachable.ofHistory (h : List Change) : Reachable (ofHistory h) :=
  List.foldlRecOn h _ .empty fun _ hc x _ => hc.apply x

theorem Reachable.consistent {c : ClusterCache} (h : Reachable c) :
    c.pods.Consistent ∧ c.events.Consistent ∧ c.namespaces.Consistent := by
  induction h with
  | empty =>
    exact ⟨KindCache.consistent_empty, KindCache.consistent_empty, KindCache.consistent_empty⟩
  | apply change _ ih =>
    obtain ⟨hp, he, hn⟩ := ih
    cases change with
    | pods e => exact ⟨hp.apply e, he, hn⟩
    | events e => exact ⟨hp, he.apply e, hn⟩
    | namespaces e => exact ⟨hp, he, hn.apply e⟩
  | fail k _ ih => cases k <;> exact ih
  | closeFeed k _ ih => cases k <;> exact ih

end ClusterCache
end SandboxWatch
