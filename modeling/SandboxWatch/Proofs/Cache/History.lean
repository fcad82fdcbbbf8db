import SandboxWatch.Proofs.Cache.Agreement

/-!
# SandboxWatch.Proofs.Cache.History

A cache answers from its history alone. Whatever events have come, in whatever order, it holds the
last word on every key, and it answers from the first full listing on.

* `KindCache.applyAll`         — a run of events, one after the other.
* `contents_ofHistory`, `synced_ofHistory` — what is held after them, and whether it may be read.
* `KindCache.reads_of_history` — what a listing and a look-up answer after a history.
-/

namespace SandboxWatch
namespace KindCache

variable {α : Type} [Resource α]

def applyAll (c : KindCache α) (h : List (WatchEvent α)) : KindCache α :=
  h.foldl (fun c e => (c.apply e).1) c

/-- The cache that has seen nothing but these events. -/
def ofHistory (h : List (WatchEvent α)) : KindCache α := empty.applyAll h

theorem contents_apply {c : KindCache α} {e : WatchEvent α} (h : e.Named) :
    (c.apply e).1.store.contents = c.store.contents.note e := by
  obtain ⟨store, hs, happly⟩ := c.apply_named h
  rw [happly]
  exact Store.contents_write? hs

theorem synced_apply {c : KindCache α} {e : WatchEvent α} (h : e.Named) :
    (c.apply e).1.synced = (c.synced || e.isRestart) := by
  obtain ⟨store, _, happly⟩ := c.apply_named h
  rw [happly]

theorem Consistent.applyAll {c : KindCache α} (hc : c.Consistent) (h : List (WatchEvent α)) :
    (c.applyAll h).Consistent :=
  List.foldlRecOn h _ hc fun _ hc e _ => hc.apply e

/-- What is held is noted event by event. -/
theorem contents_applyAll {h : List (WatchEvent α)} (hn : ∀ e ∈ h, e.Named) (c : KindCache α) :
    (c.applyAll h).store.contents = h.foldl Contents.note c.store.contents := by
  induction h generalizing c with
  | nil => rfl
  | cons e rest ih =>
    obtain ⟨he, hrest⟩ := List.forall_mem_cons.mp hn
    rw [List.foldl_cons, ← contents_apply he]
    exact ih hrest (c.apply e).1

/-- A full listing anywhere in the history leaves the cache synced. -/
theorem synced_applyAll {h : List (WatchEvent α)} (hn : ∀ e ∈ h, e.Named) (c : KindCache α) :
    (c.applyAll h).synced = (c.synced || h.any WatchEvent.isRestart) := by
  induction h generalizing c with
  | nil => rw [List.any_nil, Bool.or_false]; rfl
  | cons e rest ih =>
    obtain ⟨he, hrest⟩ := List.forall_mem_cons.mp hn
    rw [List.any_cons, ← Bool.or_assoc, ← synced_apply he]
    exact ih hrest (c.apply e).1

theorem consistent_ofHistory (h : List (WatchEvent α)) : (ofHistory h).Consistent :=
  consistent_empty.applyAll h

theorem contents_ofHistory {h : List (WatchEvent α)} (hn : ∀ e ∈ h, e.Named) :
    (ofHistory h).store.contents = Contents.ofHistory h := by
  have hempty : (empty : KindCache α).store.contents = Contents.nothing := Store.contents_empty
  rw [ofHistory, contents_applyAll hn, hempty, Contents.ofHistory]

theorem synced_ofHistory {h : List (WatchEvent α)} (hn : ∀ e ∈ h, e.Named) :
    (ofHistory h).synced = h.any WatchEvent.isRestart :=
  synced_applyAll hn empty

/-- Once a full listing has come, a listing answers what the history leaves in the namespace, each
object once and in the order of the names, and a look-up what it leaves outside all namespaces;
before that neither answers. -/
theorem reads_of_history (h : List (WatchEvent α)) (hn : ∀ e ∈ h, e.Named) (ns : String) :
    ((∃ e ∈ h, e.isRestart = true) →
        (∃ os, (ofHistory h).listIn ns = .ok os ∧ (Contents.ofHistory h).Lists ns os ∧
          ∀ o ∈ os, (Resource.metadata o).ns = some ns) ∧
        (ofHistory h).getUnscoped ns = .ok (Contents.ofHistory h ⟨none, ns⟩)) ∧
      ((¬∃ e ∈ h, e.isRestart = true) →
        (ofHistory h).listIn ns = .error (.notSynced (Resource.kind α)) ∧
        (ofHistory h).getUnscoped ns = .error (.notSynced (Resource.kind α))) := by
  have hcons := consistent_ofHistory h
  have hcontents := contents_ofHistory hn
  have hsynced := synced_ofHistory hn
  refine ⟨fun hrestart => ?_, fun hnone => ?_⟩
  · have hsynced : (ofHistory h).synced = true := by
      rw [hsynced]
      exact List.any_eq_true.mpr hrestart
    have hlists := hcons.lists_listing ns
    refine ⟨⟨_, listIn_synced hsynced ns, hcontents ▸ hlists, fun o ho => ?_⟩, ?_⟩
    · obtain ⟨name, hname⟩ := (hlists.mem o).mp ho
      exact (ObjectKey.of?_eq_some_iff.mp (hcons.keyed hname)).1
    · rw [getUnscoped_synced hsynced, hcontents]
  · have hsynced : (ofHistory h).synced = false := by
      rw [hsynced]
      exact Bool.eq_false_iff.mpr fun hany => hnone (List.any_eq_true.mp hany)
    exact ⟨listIn_unsynced hsynced ns, getUnscoped_unsynced hsynced ns⟩

/-- A pod with a name, and perhaps a namespace and a version. -/
def namedPod (ns : Option String) (name version : String) : Pod :=
  { metadata := { name := some name, ns, version := some version } }

/-- A listing with two versions of one pod and an orphan, a pod that shares the orphan's name, and
the deletion of a pod that is not there. -/
def relistHistory : List (WatchEvent Pod) :=
  [.restarted [namedPod (some "ns1") "b" "1", namedPod none "a" "2", namedPod (some "ns1") "b" "3"],
   .applied (namedPod (some "ns1") "a" "4"), .deleted (namedPod (some "ns1") "c" "5")]

theorem named_relistHistory : ∀ e ∈ relistHistory, e.Named := by
  simp [relistHistory, WatchEvent.Named, WatchEvent.objects, namedPod, Resource.metadata]

theorem reads_of_relistHistory :
    (∀ e ∈ relistHistory, e.Named) ∧
      (∃ os, (ofHistory relistHistory).listIn "ns1" = .ok os ∧
        (Contents.ofHistory relistHistory).Lists "ns1" os ∧
        ∀ o ∈ os, (Resource.metadata o).ns = some "ns1") ∧
      (ofHistory relistHistory).getUnscoped "ns1" =
        .ok (Contents.ofHistory relistHistory ⟨none, "ns1"⟩) :=
  ⟨named_relistHistory,
    (reads_of_history relistHistory named_relistHistory "ns1").1
      ⟨_, List.mem_cons_self, rfl⟩⟩

example : (ofHistory relistHistory).listing "ns1" =
    [namedPod (some "ns1") "a" "4", namedPod (some "ns1") "b" "3"] := by decide +kernel

end KindCache
end SandboxWatch
