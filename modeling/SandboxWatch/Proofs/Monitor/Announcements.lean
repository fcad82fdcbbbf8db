import SandboxWatch.Proofs.Cache.History
import SandboxWatch.Proofs.Cache.Visibility
import SandboxWatch.Proofs.Monitor.Interleaving

/-!
# SandboxWatch.Proofs.Monitor.Announcements

Who hears of an event, and when. An event is announced once all of it is written, to every namespace
in whose scope it shows an object and to no other, to each once and in order.

* `Feed.Finishes`     — a run from an event to its end, with the calls that are made on the way.
* `WatchEvent.ToldTo` — the namespaces that are to hear of an event.
* `Announces`         — the calls that an event leads to in every run.
* `announces_all`     — every event is announced so, and whoever sees a difference hears of it.
-/

namespace SandboxWatch

variable {α : Type} [Resource α]

/-! ## Calls -/

namespace Feed

/-- What the next step announces, and the cache as it is then. -/
def call? (f : Feed α) : Option (KindCache α × String) :=
  match f.flight with
  | .announcing (ns :: _) => some (f.cache, ns)
  | _ => none

/-- The steps up to the end of the event that is under way, with the calls made on the way and the
cache at the end. Anything may happen to the registry in between. -/
inductive Finishes : Feed α → List (KindCache α × String) → KindCache α → Prop where
  | done {c : KindCache α} : Finishes ⟨c, .idle⟩ [] c
  | step {f f' : Feed α} {calls : List (KindCache α × String)} {c : KindCache α}
      (r : Registry) {r' : Registry} :
      f.flight ≠ .idle → Step f r f' r' → Finishes f' calls c →
      Finishes f (f.call?.toList ++ calls) c

/-- The feed once it has taken up an event. -/
def taking (c : KindCache α) (e : WatchEvent α) : Feed α := ⟨c.count e, .collected e (c.touched e)⟩

variable {c c' : KindCache α} {e : WatchEvent α} {owed : List String}
variable {calls : List (KindCache α × String)}

theorem finishes_announcing (c : KindCache α) (owed : List String) :
    Finishes ⟨c, .announcing owed⟩ (owed.map (c, ·)) c := by
  induction owed with
  | nil => exact .step {} (fun h => nomatch h) .finish .done
  | cons ns rest ih => exact .step {} (fun h => nomatch h) .announce ih

theorem Finishes.of_announcing (h : Finishes ⟨c, .announcing owed⟩ calls c') :
    calls = owed.map (c, ·) ∧ c' = c := by
  induction owed generalizing calls with
  | nil =>
    cases h with
    | step _ _ hs hrest =>
      cases hs
      cases hrest with
      | done => exact ⟨rfl, rfl⟩
      | step _ hidle _ _ => exact absurd rfl hidle
  | cons ns rest ih =>
    cases h with
    | step _ _ hs hrest =>
      cases hs
      obtain ⟨rfl, rfl⟩ := ih hrest
      exact ⟨rfl, rfl⟩

theorem finishes_taking (c : KindCache α) (he : e.Named) :
    Finishes (taking c e) ((c.touched e).map ((c.apply e).1, ·)) (c.apply e).1 := by
  obtain ⟨stored, hw, happly⟩ := c.apply_written he
  rw [happly]
  exact .step {} (fun h => nomatch h) (.store hw)
    (.step {} (fun h => nomatch h) .index (finishes_announcing _ _))

/-- Nothing is announced before the store and the index are written. -/
theorem Finishes.of_taking (h : Finishes (taking c e) calls c') (he : e.Named) :
    calls = (c.touched e).map ((c.apply e).1, ·) ∧ c' = (c.apply e).1 := by
  obtain ⟨stored, hw, happly⟩ := c.apply_written he
  cases h with
  | step _ _ hs hrest =>
    cases hs with
    | refuse hnone => cases hw.symm.trans hnone
    | store hw' =>
      cases hw.symm.trans hw'
      cases hrest with
      | step _ _ hs' hrest' =>
        cases hs'
        rw [happly]
        exact hrest'.of_announcing

end Feed

/-! ## Who is to hear -/

/-- The namespaces that are to hear of an event, when `audience` tells which one is to hear of an
object: of a change to one object its own, and of a full listing those of all objects that were
known before it or are listed by it. -/
def WatchEvent.ToldTo (audience : α → Option String) (known : List α) (namespaces : List String) :
    WatchEvent α → Prop
  | .applied o => namespaces = (audience o).toList
  | .deleted o => namespaces = (audience o).toList
  | .restarted os => ∀ ns, ns ∈ namespaces ↔ ∃ o, (o ∈ known ∨ o ∈ os) ∧ audience o = some ns

/-- The event is announced to these namespaces, one after the other, and at each call the cache has
taken up all of it. -/
structure Announces (audience : α → Option String) (c : KindCache α) (e : WatchEvent α)
    (namespaces : List String) : Prop where
  answered : (c.apply e).2 = .ok namespaces
  toldTo : e.ToldTo audience c.store.objects namespaces
  ascending : namespaces.Pairwise fun a b => Text.bytes a < Text.bytes b
  stored : (c.apply e).1.store.contents = c.store.contents.note e
  indexed : (c.apply e).1.index = c.index.write e
  finishes : ∃ calls c', Feed.Finishes (.taking c e) calls c'
  calls : ∀ calls c', Feed.Finishes (.taking c e) calls c' →
    calls = namespaces.map ((c.apply e).1, ·) ∧ c' = (c.apply e).1

theorem eq_toList_of_mem {names : List String} {name? : Option String} (hn : names.Nodup)
    (h : ∀ name, name ∈ names ↔ name? = some name) : names = name?.toList := by
  have hperm : names.Perm name?.toList :=
    (List.perm_ext_iff_of_nodup hn (by cases name? <;> simp)).mpr fun name => by simp [h]
  cases name? with
  | none => exact List.perm_nil.mp hperm
  | some name => exact List.perm_singleton.mp hperm

namespace KindCache

theorem ordered_touched (c : KindCache α) (e : WatchEvent α) :
    (c.touched e).Pairwise fun a b => Text.bytes a < Text.bytes b :=
  Text.ordered_toList _

theorem touched_toldTo {audience : α → Option String} (c : KindCache α) (e : WatchEvent α)
    (h : ∀ o ns, Resource.scope o = .within ns ↔ audience o = some ns) :
    e.ToldTo audience c.store.objects (c.touched e) := by
  have hnodup : (c.touched e).Nodup :=
    (c.ordered_touched e).imp fun {a b} hlt => by rintro rfl; exact List.lt_irrefl _ hlt
  have hmem (ns : String) : ns ∈ c.touched e ↔ ∃ o ∈ c.shown e, audience o = some ns := by
    simp only [mem_touched, h]
  cases e with
  | applied o => exact eq_toList_of_mem hnodup fun ns => by simp [hmem, shown, WatchEvent.objects]
  | deleted o => exact eq_toList_of_mem hnodup fun ns => by simp [hmem, shown, WatchEvent.objects]
  | restarted os => exact fun ns => by simp [hmem, shown]

theorem announces {audience : α → Option String} (c : KindCache α) {e : WatchEvent α}
    (he : e.Named) (h : ∀ o ns, Resource.scope o = .within ns ↔ audience o = some ns) :
    Announces audience c e (c.touched e) := by
  obtain ⟨store, _, happly⟩ := c.apply_named he
  exact {
    answered := by rw [happly]
    toldTo := c.touched_toldTo e h
    ascending := c.ordered_touched e
    stored := contents_apply he
    indexed := by rw [happly]
    finishes := ⟨_, _, Feed.finishes_taking c he⟩
    calls := fun calls c' hf => hf.of_taking he }

end KindCache

theorem Pod.scope_iff (p : Pod) (ns : String) :
    Resource.scope p = .within ns ↔ p.metadata.ns = some ns := by
  simp only [Resource.scope]
  cases p.metadata.ns <;> simp

theorem Namespace.scope_iff (n : Namespace) (ns : String) :
    Resource.scope n = .within ns ↔ n.metadata.name = some ns := by
  simp only [Resource.scope]
  cases n.metadata.name <;> simp

/-! ## Who sees a difference -/

namespace ClusterCache

/-- A reader of the namespace who had an answer gets another one. -/
def ShowsOther (c c' : ClusterCache) (ns : String) : Prop :=
  (c.pods.synced = true ∧ c'.pods.listIn ns ≠ c.pods.listIn ns) ∨
    (c.namespaces.synced = true ∧ c'.getNamespace ns ≠ c.getNamespace ns)

theorem mem_touched_of_showsOther_pods {c : ClusterCache} {e : WatchEvent Pod} {ns : String}
    (hc : c.pods.Consistent) (he : e.Named) (h : c.ShowsOther (c.apply (.pods e)).1 ns) :
    ns ∈ c.pods.touched e := by
  rcases h with ⟨hs, hne⟩ | ⟨_, hne⟩
  · by_contra hns
    have hs' : (c.pods.apply e).1.synced = true := by rw [KindCache.synced_apply he, hs]; rfl
    have hlisting := (KindCache.announced_listing ns).applied hc hns
    refine hne ?_
    rw [KindCache.listIn_synced hs, ← hlisting]
    exact KindCache.listIn_synced hs' ns
  · exact absurd rfl hne

theorem mem_touched_of_showsOther_namespaces {c : ClusterCache} {e : WatchEvent Namespace}
    {ns : String} (hc : c.namespaces.Consistent) (he : e.Named)
    (h : c.ShowsOther (c.apply (.namespaces e)).1 ns) : ns ∈ c.namespaces.touched e := by
  rcases h with ⟨_, hne⟩ | ⟨hs, hne⟩
  · exact absurd rfl hne
  · by_contra hns
    have hs' : (c.namespaces.apply e).1.synced = true := by
      rw [KindCache.synced_apply he, hs]; rfl
    have hheld := (KindCache.announced_unscoped ns).applied hc hns
    refine hne ?_
    rw [getNamespace, getNamespace, KindCache.getUnscoped_synced hs, ← hheld]
    exact KindCache.getUnscoped_synced hs' ns

end ClusterCache

/-- On every cache that changes, errors and ends of watches lead to: an event of named objects is
announced to the namespaces that it touches, when all is written, and nobody who sees a difference
is left out. -/
theorem announces_all {c : ClusterCache} (hc : c.Reachable) :
    (∀ e : WatchEvent Event, e.Named → Announces (fun _ => none) c.events e []) ∧
      (∀ e : WatchEvent Pod, e.Named → ∃ namespaces,
        Announces (fun p => p.metadata.ns) c.pods e namespaces ∧
          ∀ ns, c.ShowsOther (c.apply (.pods e)).1 ns → ns ∈ namespaces) ∧
      ∀ e : WatchEvent Namespace, e.Named → ∃ namespaces,
        Announces (fun n => n.metadata.name) c.namespaces e namespaces ∧
          ∀ ns, c.ShowsOther (c.apply (.namespaces e)).1 ns → ns ∈ namespaces := by
  obtain ⟨hpods, _, hnamespaces⟩ := hc.consistent
  refine ⟨fun e he => ?_, fun e he => ?_, fun e he => ?_⟩
  · have hnone : c.events.touched e = [] :=
      List.eq_nil_iff_forall_not_mem.mpr fun ns hns => by
        obtain ⟨o, _, ho⟩ := KindCache.mem_touched.mp hns
        cases ho
    exact hnone ▸ c.events.announces he fun o ns => by simp [Resource.scope]
  · exact ⟨_, c.pods.announces he Pod.scope_iff,
      fun ns => ClusterCache.mem_touched_of_showsOther_pods hpods he⟩
  · exact ⟨_, c.namespaces.announces he Namespace.scope_iff,
      fun ns => ClusterCache.mem_touched_of_showsOther_namespaces hnamespaces he⟩

/-- Pods in two namespaces and one outside of all. -/
def twoNamespaces : ClusterCache :=
  (ClusterCache.empty.apply (.pods (.restarted
    [KindCache.namedPod (some "ns2") "a" "1", KindCache.namedPod (some "ns1") "a" "2",
      KindCache.namedPod none "a" "3"]))).1

/-- A listing that a namespace is missing from, with two versions of one pod and a new namespace. -/
def shiftedListing : WatchEvent Pod :=
  .restarted [KindCache.namedPod (some "ns3") "b" "4", KindCache.namedPod (some "ns1") "a" "5",
    KindCache.namedPod (some "ns1") "a" "6"]

theorem announces_all_shiftedListing :
    twoNamespaces.Reachable ∧ shiftedListing.Named ∧
      twoNamespaces.ShowsOther (twoNamespaces.apply (.pods shiftedListing)).1 "ns2" ∧
      ∃ namespaces, Announces (fun p => p.metadata.ns) twoNamespaces.pods shiftedListing namespaces ∧
        "ns2" ∈ namespaces := by
  have hreachable : twoNamespaces.Reachable := .apply _ .empty
  have hnamed : shiftedListing.Named := by
    simp [shiftedListing, WatchEvent.Named, WatchEvent.objects, KindCache.namedPod,
      Resource.metadata]
  have hother : twoNamespaces.ShowsOther (twoNamespaces.apply (.pods shiftedListing)).1 "ns2" :=
    .inl ⟨by decide +kernel, by decide +kernel⟩
  obtain ⟨namespaces, hannounces, hshown⟩ := (announces_all hreachable).2.1 shiftedListing hnamed
  exact ⟨hreachable, hnamed, hother, namespaces, hannounces, hshown "ns2" hother⟩

example : twoNamespaces.pods.touched shiftedListing = ["ns1", "ns2", "ns3"] := by decide +kernel

end SandboxWatch
