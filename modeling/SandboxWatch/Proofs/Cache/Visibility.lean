import Mathlib.Data.List.Basic
import SandboxWatch.Proofs.Cache.Agreement
import SandboxWatch.Status.Sandbox

/-!
# SandboxWatch.Proofs.Cache.Visibility

What the readers of one namespace can see of a cache, and which steps of an event can change it. An
event is written in two steps, first to the store and then to the index, and readers may come in
between.

* `Announced`           — neither step changes a view unless the event touches the namespace.
* `announced_listing`, `announced_unscoped` — the pods of a namespace, and the namespace itself.
* `sandboxStatus_congr` — the status depends on these two views and the known events alone.
-/

namespace SandboxWatch

theorem Store.mem_objects {α : Type} {s : Store α} {o : α} :
    o ∈ s.objects ↔ ∃ k, s.contents k = some o := by
  simp [Store.objects, Store.contents, Std.ExtTreeMap.mem_toList_iff_getElem?_eq_some]

namespace KindCache

variable {α : Type} [Resource α]
variable {c c' : KindCache α} {e : WatchEvent α} {ns : String} {k : ObjectKey}

/-! ## The steps of an event -/

theorem writeStore?_eq_some (h : c.writeStore? e = some c') :
    c'.store.contents = c.store.contents.note e ∧ c'.index = c.index ∧ c'.synced = c.synced := by
  unfold writeStore? at h
  cases hs : c.store.write? e with
  | none => rw [hs] at h; cases h
  | some store =>
    rw [hs] at h
    cases h
    exact ⟨Store.contents_write? hs, rfl, rfl⟩

/-- An event of named objects is never refused. -/
theorem writeStore?_ne_none (he : e.Named) : c.writeStore? e ≠ none := by
  unfold writeStore?
  split
  · exact Option.some_ne_none _
  · rename_i hnone
    obtain ⟨o, ho, hname⟩ := Store.write?_eq_none_iff.mp hnone
    exact absurd hname (he o ho)

/-- An event of named objects is written to the store, then to the index. -/
theorem apply_written (c : KindCache α) (h : e.Named) :
    ∃ stored, (c.count e).writeStore? e = some stored ∧
      c.apply e = ((stored.writeIndex e).markSynced e, .ok (c.touched e)) := by
  obtain ⟨store, hs, _⟩ := c.apply_named h
  have hstored : (c.count e).writeStore? e = some { c.count e with store } := by
    simp only [writeStore?, count, hs]
  exact ⟨_, hstored, by rw [apply, hstored]⟩

/-- Between the two steps the store is ahead: it fits the index that is about to be written. -/
theorem Consistent.ahead (h : c.Consistent) (hs : c.writeStore? e = some c') :
    Agree c'.store.contents (c'.index.write e) := by
  obtain ⟨hcontents, hindex, _⟩ := writeStore?_eq_some hs
  rw [hcontents, hindex]
  exact Agree.note h e

/-- What is held under a key changes only if the event shows an object that has it. -/
theorem Consistent.note_of_not_shown (h : c.Consistent)
    (hk : ∀ o ∈ c.shown e, ObjectKey.of? o ≠ some k) :
    c.store.contents.note e k = c.store.contents k := by
  cases e with
  | applied o => exact if_neg (hk o List.mem_cons_self)
  | deleted o => exact if_neg (hk o List.mem_cons_self)
  | restarted os =>
    -- the objects known before are shown as well, so none of them has the key either
    have hold : c.store.contents k = none := by
      cases hc : c.store.contents k with
      | none => rfl
      | some o =>
        have ho : o ∈ c.store.objects := Store.mem_objects.mpr ⟨k, hc⟩
        exact absurd (h.keyed hc) (hk o (List.mem_append_left _ ho))
    have hnew : Contents.lastOf os k = none := by
      cases hl : Contents.lastOf os k with
      | none => rfl
      | some o =>
        obtain ⟨ho, hkey⟩ := Contents.of?_of_lastOf hl
        exact absurd hkey (hk o (List.mem_append_right _ ho))
    rw [hold]
    exact hnew

/-! ## Listings -/

/-- The names under a namespace are settled by what is held in it. -/
theorem names_congr {m m' : Contents α} {index index' : NamespaceIndex} (h : Agree m index)
    (h' : Agree m' index') (hm : ∀ name, m' ⟨some ns, name⟩ = m ⟨some ns, name⟩) :
    index'.names ns = index.names ns := by
  have hvalues : Groups.values index' ns = Groups.values index ns := by
    refine Std.ExtTreeSet.ext_mem fun name => ?_
    rw [← NamespaceIndex.mem_names, ← NamespaceIndex.mem_names, h.listed, h'.listed, hm]
  rw [NamespaceIndex.names, hvalues, NamespaceIndex.names]

theorem Consistent.listing_congr (h : c.Consistent)
    (hnames : c'.index.names ns = c.index.names ns)
    (hheld : ∀ name, c'.store.contents ⟨some ns, name⟩ = c.store.contents ⟨some ns, name⟩) :
    c'.listing ns = c.listing ns := by
  rw [listing, listing, hnames]
  refine List.filterMap_congr fun name hname => ?_
  obtain ⟨o, ho⟩ := Option.isSome_iff_exists.mp (h.listed.mp hname)
  rw [lookup?_of_held ho, lookup?_of_held ((hheld name).trans ho)]

/-! ## Views -/

/-- Whatever an event changes of a view, at either of its steps, it touches the namespace. -/
structure Announced {β : Type} (ns : String) (view : KindCache α → β) : Prop where
  counted (c : KindCache α) (e : WatchEvent α) : view (c.count e) = view c
  stored {c c' : KindCache α} {e : WatchEvent α} : c.Consistent → c.writeStore? e = some c' →
    ns ∉ c.touched e → view c' = view c
  indexed {c c' : KindCache α} {e : WatchEvent α} : c.Consistent → c.writeStore? e = some c' →
    ns ∉ c.touched e → view ((c'.writeIndex e).markSynced e) = view c

theorem Announced.applied {β : Type} {view : KindCache α → β} (hview : Announced ns view)
    (h : c.Consistent) (hns : ns ∉ c.touched e) : view (c.apply e).1 = view c := by
  by_cases hn : e.Named
  · obtain ⟨stored, hs, happly⟩ := c.apply_written hn
    rw [happly]
    have hcount : (c.count e).Consistent := h
    exact (hview.indexed hcount hs hns).trans (hview.counted c e)
  · rw [c.apply_unnamed hn]
    exact hview.counted c e

theorem announced_contents
    (hk : ∀ o : α, ObjectKey.of? o = some k → Resource.scope o = .within ns) :
    Announced ns fun c : KindCache α => c.store.contents k := by
  have hnote {c c' : KindCache α} {e : WatchEvent α} (h : c.Consistent)
      (hs : c.writeStore? e = some c') (hns : ns ∉ c.touched e) :
      c'.store.contents k = c.store.contents k := by
    rw [(writeStore?_eq_some hs).1]
    exact h.note_of_not_shown fun o ho hkey => hns (mem_touched.mpr ⟨o, ho, hk o hkey⟩)
  exact ⟨fun c e => rfl, hnote, hnote⟩

theorem announced_unscoped (ns : String) :
    Announced ns fun c : KindCache Namespace => c.store.contents ⟨none, ns⟩ := by
  refine announced_contents fun n hn => ?_
  have hname : n.metadata.name = some ns := (ObjectKey.of?_eq_some_iff.mp hn).2
  simp only [Resource.scope, hname]

theorem announced_listing (ns : String) : Announced ns fun c : KindCache Pod => c.listing ns := by
  have hheld (name : String) :
      Announced ns fun c : KindCache Pod => c.store.contents ⟨some ns, name⟩ := by
    refine announced_contents fun p hp => ?_
    have hns : p.metadata.ns = some ns := (ObjectKey.of?_eq_some_iff.mp hp).1
    simp only [Resource.scope, hns]
  refine ⟨fun c e => rfl, fun {c c' e} h hs hns => ?_, fun {c c' e} h hs hns => ?_⟩
  · have hnames : c'.index.names ns = c.index.names ns := by rw [(writeStore?_eq_some hs).2.1]
    exact h.listing_congr hnames fun name => (hheld name).stored h hs hns
  · have hnames : (c'.index.write e).names ns = c.index.names ns :=
      names_congr h (h.ahead hs) fun name => (hheld name).stored h hs hns
    exact h.listing_congr hnames fun name => (hheld name).indexed h hs hns

end KindCache

/-! ## The status -/

theorem sandboxStatus_congr {c c' : ClusterCache} {config : Config} {ns : String}
    (hp : c.pods.synced = true) (hp' : c'.pods.synced = true)
    (hn : c.namespaces.synced = true) (hn' : c'.namespaces.synced = true)
    (hevents : knownEvents c' ns = knownEvents c ns)
    (hpods : c'.pods.listing ns = c.pods.listing ns)
    (hnamespace : c'.namespaces.store.contents ⟨none, ns⟩ = c.namespaces.store.contents ⟨none, ns⟩) :
    sandboxStatus config c' ns = sandboxStatus config c ns := by
  have hget : c'.getNamespace ns = c.getNamespace ns := by
    rw [ClusterCache.getNamespace, ClusterCache.getNamespace, KindCache.getUnscoped_synced hn',
      KindCache.getUnscoped_synced hn, hnamespace]
  have hlist : c'.listPods ns config.memberSelector = c.listPods ns config.memberSelector := by
    rw [ClusterCache.listPods, ClusterCache.listPods, KindCache.listIn_synced hp',
      KindCache.listIn_synced hp, hpods]
  rw [sandboxStatus, sandboxStatus, hget, hlist, hevents]

end SandboxWatch
