import SandboxWatch.Proofs.Cache.History

/-!
# SandboxWatch.Proofs.Cache.Refusal

Which events a cache takes up. An object without a namespace does no harm: it is held, but neither
listed nor announced. An object without a name stops the whole event, the good objects beside it
included.

* `KindCache.TakenUp`               — an event does what it should with all that is in good order.
* `KindCache.takenUp_iff`           — the events that are taken up, and what becomes of the others.
* `KindCache.restart_beside_nameless` — one nameless object keeps a whole listing out.
-/

namespace SandboxWatch
namespace KindCache

variable {α : Type} [Resource α]

/-- The event ends normally. Objects without a key are passed over; all others are held under their
keys, those inside a namespace are listed there, and exactly the namespaces in whose scope an object
falls are to hear of it. -/
structure TakenUp (c : KindCache α) (e : WatchEvent α) : Prop where
  ends : ∃ namespaces, (c.apply e).2 = .ok namespaces ∧
    ∀ ns, ns ∈ namespaces ↔ ∃ o ∈ c.shown e, Resource.scope o = .within ns
  held : (c.apply e).1.store.contents = c.store.contents.note e
  listed : ∀ ns name, name ∈ (c.apply e).1.index.names ns ↔
    e.Leaves ⟨some ns, name⟩ (name ∈ c.index.names ns)

theorem TakenUp.of_named {c : KindCache α} {e : WatchEvent α} (h : e.Named) : c.TakenUp e := by
  obtain ⟨store, hs, happly⟩ := c.apply_named h
  refine ⟨⟨c.touched e, by rw [happly], fun ns => mem_touched⟩, contents_apply h, ?_⟩
  intro ns name
  rw [happly]
  exact NamespaceIndex.mem_names_write

theorem TakenUp.named {c : KindCache α} {e : WatchEvent α} (h : c.TakenUp e) : e.Named := by
  obtain ⟨namespaces, hok, _⟩ := h.ends
  by_cases hn : e.Named
  · exact hn
  · rw [c.apply_unnamed hn] at hok
    cases hok

theorem apply_eq_unnamed_iff {c : KindCache α} {e : WatchEvent α} :
    c.apply e = (c.count e, .error .unnamedObject) ↔
      ∃ o ∈ e.objects, (Resource.metadata o).name = none := by
  constructor
  · intro h
    by_cases hn : e.Named
    · obtain ⟨store, _, happly⟩ := c.apply_named hn
      rw [h] at happly
      cases (Prod.mk.inj happly).2
    · simpa [WatchEvent.Named] using hn
  · rintro ⟨o, ho, hname⟩
    exact c.apply_unnamed fun hn => hn o ho hname

/-- An event is taken up exactly when every object that it delivers has a name, whatever else the
objects lack. Any other event is refused, and nothing but the counters moves. -/
theorem takenUp_iff (c : KindCache α) (e : WatchEvent α) :
    (c.TakenUp e ↔ ∀ o ∈ e.objects, (Resource.metadata o).name ≠ none) ∧
      (c.apply e = (c.count e, .error .unnamedObject) ↔
        ∃ o ∈ e.objects, (Resource.metadata o).name = none) ∧
      ApplyError.unnamedObject.message = ".metadata.name missing" :=
  ⟨⟨TakenUp.named, TakenUp.of_named⟩, apply_eq_unnamed_iff, rfl⟩

/-- A first listing of a good pod behind one without name and namespace is not taken up: the cache
stays empty and waits on. -/
theorem restart_beside_nameless :
    ¬(empty : KindCache Pod).TakenUp (.restarted [{}, namedPod (some "ns1") "web" "1"]) ∧
      ((empty : KindCache Pod).apply (.restarted [{}, namedPod (some "ns1") "web" "1"])).1.listIn "ns1"
        = .error (.notSynced .pods) := by
  have hname : ∃ o ∈ [({} : Pod), namedPod (some "ns1") "web" "1"],
      (Resource.metadata o).name = none := ⟨{}, List.mem_cons_self, rfl⟩
  constructor
  · intro h
    obtain ⟨o, ho, hnone⟩ := hname
    exact h.named o ho hnone
  · rw [apply_eq_unnamed_iff.mpr hname]
    rfl

end KindCache
end SandboxWatch
