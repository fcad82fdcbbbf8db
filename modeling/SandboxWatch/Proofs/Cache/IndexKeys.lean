import Mathlib.Data.List.Basic
import SandboxWatch.Proofs.Cache.History

/-!
# SandboxWatch.Proofs.Cache.IndexKeys

The index holds the keys that the store has inside namespaces, and no others. The two are written by
different rules: the store takes objects without a namespace, the index passes them over, and either
one has its own way with names that are there already or were never there.

* `Sound`                 — what every event keeps, whether it is taken up or refused.
* `KeysIndexed`           — the index against the keys of the store, and what a listing finds.
* `keysIndexed_ofHistory` — after any events at all.
-/

namespace SandboxWatch

variable {α : Type} [Resource α]

/-! ## Namespaces without names -/

namespace NamespaceIndex

theorem noneEmpty_addObject {index : NamespaceIndex} {o : α} (h : Groups.NoneEmpty index) :
    Groups.NoneEmpty (index.addObject o) := by
  unfold addObject
  split
  · exact Groups.noneEmpty_add h
  · exact h

theorem noneEmpty_foldl_addObject {index : NamespaceIndex} {os : List α}
    (h : Groups.NoneEmpty index) : Groups.NoneEmpty (os.foldl addObject index) :=
  List.foldlRecOn os addObject h fun _ hindex _ _ => noneEmpty_addObject hindex

theorem noneEmpty_write {index : NamespaceIndex} (h : Groups.NoneEmpty index) (e : WatchEvent α) :
    Groups.NoneEmpty (index.write e) := by
  cases e with
  | applied o => exact noneEmpty_addObject h
  | deleted o =>
    rw [write]
    split
    · exact Groups.noneEmpty_remove h
    · exact h
  | restarted os => exact noneEmpty_foldl_addObject Groups.noneEmpty_empty

end NamespaceIndex

namespace KindCache

variable {c : KindCache α} {ns name : String}

/-! ## What every event keeps -/

structure Sound (c : KindCache α) : Prop where
  consistent : c.Consistent
  noneEmpty : Groups.NoneEmpty c.index

theorem sound_empty : (empty : KindCache α).Sound where
  consistent := consistent_empty
  noneEmpty := Groups.noneEmpty_empty

theorem Sound.apply (h : c.Sound) (e : WatchEvent α) : (c.apply e).1.Sound where
  consistent := h.consistent.apply e
  noneEmpty := by
    by_cases hn : e.Named
    · obtain ⟨store, _, happly⟩ := c.apply_named hn
      rw [happly]
      exact NamespaceIndex.noneEmpty_write h.noneEmpty e
    · -- a refused event writes nothing
      rw [c.apply_unnamed hn]
      exact h.noneEmpty

theorem Sound.applyAll (h : c.Sound) (events : List (WatchEvent α)) : (c.applyAll events).Sound :=
  List.foldlRecOn events _ h fun _ hc e _ => hc.apply e

/-! ## The index against the store -/

theorem Sound.mem_names_iff (h : c.Sound) :
    name ∈ c.index.names ns ↔ (⟨some ns, name⟩ : ObjectKey) ∈ c.store := by
  rw [h.consistent.listed, Std.ExtTreeMap.mem_iff_isSome_getElem?]
  exact Iff.rfl

theorem Sound.mem_index_iff (h : c.Sound) :
    ns ∈ c.index ↔ ∃ name, (⟨some ns, name⟩ : ObjectKey) ∈ c.store := by
  simp only [← h.mem_names_iff, NamespaceIndex.mem_names]
  exact h.noneEmpty.mem_iff

theorem Sound.lookup? (h : c.Sound) (hname : name ∈ c.index.names ns) :
    ∃ o, c.store[(⟨some ns, name⟩ : ObjectKey)]? = some o ∧ c.lookup? ns name = some o ∧
      ObjectKey.of? o = some ⟨some ns, name⟩ := by
  obtain ⟨o, ho⟩ := Option.isSome_iff_exists.mp (h.consistent.listed.mp hname)
  exact ⟨o, ho, lookup?_of_held ho, h.consistent.keyed ho⟩

/-- No name is looked up in vain, and none is answered with the object outside all namespaces. -/
theorem Sound.of?_listing (h : c.Sound) (ns : String) :
    (c.listing ns).map ObjectKey.of? =
      (c.index.names ns).map fun name => some ⟨some ns, name⟩ := by
  calc (c.listing ns).map ObjectKey.of?
      = (c.index.names ns).filterMap fun name => (c.lookup? ns name).map ObjectKey.of? :=
        List.map_filterMap
    _ = (c.index.names ns).filterMap fun name => some (some ⟨some ns, name⟩) := by
        refine List.filterMap_congr fun name hname => ?_
        obtain ⟨o, _, hlookup, hkey⟩ := h.lookup? hname
        rw [hlookup, Option.map_some, hkey]
    _ = (c.index.names ns).map fun name => some ⟨some ns, name⟩ := by
        rw [List.filterMap_eq_map']

/-- The index holds the keys of the store inside namespaces: a name under a namespace for each, no
namespace without names, and the names in the order of their bytes. So whatever a listing looks up
is found under its very key, and a namespace whose last object is gone is not in the index. -/
structure KeysIndexed (c : KindCache α) : Prop where
  listed : ∀ ns name, name ∈ c.index.names ns ↔ (⟨some ns, name⟩ : ObjectKey) ∈ c.store
  noneEmpty : ∀ ns : String, c.index[ns]? ≠ some ∅
  increasing : ∀ ns, (c.index.names ns).Pairwise fun x y => Text.bytes x < Text.bytes y
  namespaces : ∀ ns : String, ns ∈ c.index ↔ ∃ name, (⟨some ns, name⟩ : ObjectKey) ∈ c.store
  hits : ∀ ns name, name ∈ c.index.names ns →
    ∃ o, c.store[(⟨some ns, name⟩ : ObjectKey)]? = some o ∧ c.lookup? ns name = some o
  answers : ∀ ns os, c.listIn ns = .ok os →
    os.map ObjectKey.of? = (c.index.names ns).map fun name => some ⟨some ns, name⟩

theorem Sound.keysIndexed (h : c.Sound) : c.KeysIndexed where
  listed ns name := h.mem_names_iff
  noneEmpty := h.noneEmpty
  increasing := c.index.ordered_names
  namespaces ns := h.mem_index_iff
  hits ns name hname := by
    obtain ⟨o, ho, hlookup, _⟩ := h.lookup? hname
    exact ⟨o, ho, hlookup⟩
  answers ns os hos := by
    cases hsynced : c.synced with
    | false =>
      rw [listIn_unsynced hsynced] at hos
      cases hos
    | true =>
      rw [listIn_synced hsynced] at hos
      cases hos
      exact h.of?_listing ns

/-- Whatever events have come, in whatever order, refused ones among them. -/
theorem keysIndexed_ofHistory (h : List (WatchEvent α)) : (ofHistory h).KeysIndexed :=
  (sound_empty.applyAll h).keysIndexed

end KindCache
end SandboxWatch
