import SandboxWatch.Proofs.Cache.History
import SandboxWatch.Proofs.Cache.Visibility
import SandboxWatch.Proofs.Monitor.Interleaving

/-!
# SandboxWatch.Proofs.Monitor.Listing

A listing of a namespace, read while the feed writes. The reader takes the names from the index and
then asks the store for one name after the other; in between the feed may take any step, and what
the index told may be out of date when the store is asked.

* `Reading.Run`            — the feed and the reader at work, with the events that have come so far.
* `Flight.Reaches`         — how many of these events the index and the store have seen.
* `Listing.Follows`        — what a listing has to do with the events.
* `Run.apply`, `Run.listIn` — an event, and a listing, taken in one go.
* `listing_amid_writes`    — what stands in a listing, whatever the order of the steps.
* `listing_meets_orphan`   — an object outside all namespaces can be among it.
-/

namespace SandboxWatch

/-! ## One look-up -/

section OneLookup

variable {α : Type}

/-- A listing under way. -/
structure Listing (α : Type) where
  /-- The names that are yet to be looked up. -/
  due : List String
  /-- What was found so far, and under which names. -/
  found : List (String × α) := []
deriving DecidableEq

/-- What the reader gets in the end. -/
def Listing.objects (l : Listing α) : List α := l.found.map (·.2)

/-- The next name is looked up. -/
def Listing.look (l : Listing α) (c : KindCache α) (ns : String) : Listing α :=
  match l.due with
  | [] => l
  | name :: rest =>
    { due := rest, found := l.found ++ ((c.lookup? ns name).map (name, ·)).toList }

/-- The object that one finds who looks up a name of the namespace: the one outside all namespaces
stands in where the namespace has none of the name. -/
def Contents.Yields (m : Contents α) (ns name : String) (o : α) : Prop :=
  m ⟨some ns, name⟩ = some o ∨ m ⟨some ns, name⟩ = none ∧ m ⟨none, name⟩ = some o

theorem KindCache.lookup?_eq_some_iff {c : KindCache α} {ns name : String} {o : α} :
    c.lookup? ns name = some o ↔ c.store.contents.Yields ns name o := by
  simp only [KindCache.lookup?, Store.get?, ObjectKey.unscoped, Contents.Yields, Store.contents]
  cases c.store[(⟨some ns, name⟩ : ObjectKey)]? <;> simp

namespace Listing

variable {l : Listing α} {c : KindCache α} {ns : String}

theorem mem_look {name : String} {o : α} :
    (name, o) ∈ (l.look c ns).found ↔
      (name, o) ∈ l.found ∨ l.due.head? = some name ∧ c.lookup? ns name = some o := by
  unfold look
  split
  · rename_i hdue
    simp [hdue]
  · rename_i first rest hdue
    cases hc : c.lookup? ns first with
    | none =>
      simp only [hdue, List.head?_cons, Option.some.injEq, Option.map_none, Option.toList_none,
        List.append_nil, iff_self_or]
      rintro ⟨rfl, ho⟩
      cases hc.symm.trans ho
    | some o' =>
      simp only [hdue, List.head?_cons, Option.some.injEq, Option.map_some, Option.toList_some,
        List.mem_append, List.mem_singleton, Prod.mk.injEq]
      refine or_congr_right ⟨?_, ?_⟩
      · rintro ⟨rfl, rfl⟩
        exact ⟨rfl, hc⟩
      · rintro ⟨rfl, ho⟩
        exact ⟨rfl, Option.some.inj (ho.symm.trans hc)⟩

theorem objects_look {name : String} {rest : List String} (hdue : l.due = name :: rest) :
    (l.look c ns).objects = l.objects ++ [name].filterMap (c.lookup? ns) := by
  cases hc : c.lookup? ns name <;> simp [look, objects, hdue, hc]

/-- A look-up moves the first of the names that are due, or drops it. -/
theorem sublist_look :
    ((l.look c ns).found.map (·.1) ++ (l.look c ns).due).Sublist
      (l.found.map (·.1) ++ l.due) := by
  unfold look
  split
  · exact .refl _
  · rename_i first rest hdue
    rw [hdue]
    cases c.lookup? ns first <;> simp

theorem due_look : (l.look c ns).due = l.due.tail := by
  unfold look
  split <;> rename_i hdue <;> simp [hdue]

end Listing

/-- All that has come in is `all`; the store has seen `stored` of it, and the index `indexed`. -/
inductive Flight.Reaches : Flight α → (indexed stored all : List (WatchEvent α)) → Prop where
  | idle {h : List (WatchEvent α)} : Reaches .idle h h h
  | collected {h : List (WatchEvent α)} {e : WatchEvent α} {owed : List String} :
      Reaches (.collected e owed) h h (h ++ [e])
  | stored {h : List (WatchEvent α)} {e : WatchEvent α} {owed : List String} :
      Reaches (.stored e owed) h (h ++ [e]) (h ++ [e])
  | announcing {h : List (WatchEvent α)} {owed : List String} : Reaches (.announcing owed) h h h

theorem Flight.Reaches.stored_le {f : Flight α} {indexed stored all : List (WatchEvent α)}
    (h : f.Reaches indexed stored all) : indexed <+: stored ∧ stored <+: all := by
  cases h with
  | idle => exact ⟨List.prefix_rfl, List.prefix_rfl⟩
  | collected => exact ⟨List.prefix_rfl, List.prefix_append ..⟩
  | stored => exact ⟨List.prefix_append .., List.prefix_rfl⟩
  | announcing => exact ⟨List.prefix_rfl, List.prefix_rfl⟩

end OneLookup

/-! ## The feed and a reader -/

variable {α : Type} [Resource α]

structure Reading (α : Type) where
  feed : Feed α
  listing : Option (Listing α) := none

/-- The feed and a reader of the namespace take their steps in any order. These events have come so
far, the newest last, and all of their objects have names. The registry is whatever others make of
it. -/
inductive Reading.Run (ns : String) : List (WatchEvent α) → Reading α → Prop where
  | start : Run ns [] { feed := { cache := .empty } }
  | event {h : List (WatchEvent α)} {s : Reading α} {c : KindCache α} {e : WatchEvent α}
      {owed : List String} {r r' : Registry} :
      Run ns h s → s.feed.flight = .idle → e.Named → Feed.Step s.feed r ⟨c, .collected e owed⟩ r' →
      Run ns (h ++ [e]) { s with feed := ⟨c, .collected e owed⟩ }
  | feed {h : List (WatchEvent α)} {s : Reading α} {f : Feed α} {r r' : Registry} :
      Run ns h s → s.feed.flight ≠ .idle → Feed.Step s.feed r f r' → Run ns h { s with feed := f }
  | begin {h : List (WatchEvent α)} {s : Reading α} :
      Run ns h s → s.listing = none → s.feed.cache.synced = true →
      Run ns h { s with listing := some { due := s.feed.cache.index.names ns } }
  | look {h : List (WatchEvent α)} {s : Reading α} {l : Listing α} :
      Run ns h s → s.listing = some l →
      Run ns h { s with listing := some (l.look s.feed.cache ns) }

/-- The names are among those that the namespace had after `seen`, in order. Of these, each one that
is no longer due was looked up at some time between then and now, and stands in the listing with
what was found. -/
structure Listing.Follows (l : Listing α) (ns : String) (seen now : List (WatchEvent α)) :
    Prop where
  seen_le : seen <+: now
  ordered : (l.found.map (·.1) ++ l.due).Pairwise fun x y => Text.bytes x < Text.bytes y
  known : ∀ name ∈ l.found.map (·.1) ++ l.due, (Contents.ofHistory seen ⟨some ns, name⟩).isSome
  told : ∀ name ∉ l.due, (Contents.ofHistory seen ⟨some ns, name⟩).isSome →
    ∃ h, seen <+: h ∧ h <+: now ∧
      ∀ o, (name, o) ∈ l.found ↔ (Contents.ofHistory h).Yields ns name o

/-- The invariant of a run. -/
structure Reading.Kept (ns : String) (s : Reading α) (indexed stored all : List (WatchEvent α)) :
    Prop where
  reaches : s.feed.flight.Reaches indexed stored all
  named : ∀ e ∈ all, e.Named
  store : s.feed.cache.store.contents = Contents.ofHistory stored
  index : Agree (Contents.ofHistory indexed) s.feed.cache.index
  listing : ∀ l, s.listing = some l → ∃ seen, l.Follows ns seen stored

/-! ## Listings -/

namespace Contents.Yields

variable {h : List (WatchEvent α)} {ns name : String} {o : α}

theorem name_eq (hy : (ofHistory h).Yields ns name o) :
    (Resource.metadata o).name = some name := by
  obtain ho | ⟨_, ho⟩ := hy
  · exact (ObjectKey.of?_eq_some_iff.mp (of?_of_ofHistory ho)).2
  · exact (ObjectKey.of?_eq_some_iff.mp (of?_of_ofHistory ho)).2

theorem ns_eq_or_gone (hy : (ofHistory h).Yields ns name o) :
    (Resource.metadata o).ns = some ns ∨ (Resource.metadata o).ns = none ∧
      ofHistory h ⟨some ns, name⟩ = none ∧ ofHistory h ⟨none, name⟩ = some o := by
  obtain ho | ⟨hgone, ho⟩ := hy
  · exact .inl (ObjectKey.of?_eq_some_iff.mp (of?_of_ofHistory ho)).1
  · exact .inr ⟨(ObjectKey.of?_eq_some_iff.mp (of?_of_ofHistory ho)).1, hgone, ho⟩

end Contents.Yields

namespace Listing

variable {l : Listing α} {c : KindCache α} {ns : String} {seen now now' : List (WatchEvent α)}

theorem Follows.mono (hl : l.Follows ns seen now) (hnow : now <+: now') :
    l.Follows ns seen now' where
  seen_le := hl.seen_le.trans hnow
  ordered := hl.ordered
  known := hl.known
  told name hdue hheld :=
    let ⟨h, hseen, hle, hfound⟩ := hl.told name hdue hheld
    ⟨h, hseen, hle.trans hnow, hfound⟩

theorem Follows.not_due_of_found (hl : l.Follows ns seen now) {name : String} {o : α}
    (ho : (name, o) ∈ l.found) : name ∉ l.due := fun hdue =>
  List.lt_irrefl _
    ((List.pairwise_append.mp hl.ordered).2.2 name (List.mem_map_of_mem ho) name hdue)

theorem Follows.look (hl : l.Follows ns seen now)
    (hc : c.store.contents = Contents.ofHistory now) : (l.look c ns).Follows ns seen now where
  seen_le := hl.seen_le
  ordered := hl.ordered.sublist sublist_look
  known name hname := hl.known name (sublist_look.subset hname)
  told name hdue hheld := by
    rw [due_look] at hdue
    by_cases hfirst : l.due.head? = some name
    · -- nothing has been found under this name before, since it has been due until now
      refine ⟨now, hl.seen_le, List.prefix_rfl, fun o => ?_⟩
      have hnew : (name, o) ∉ l.found := fun hmem =>
        hl.not_due_of_found hmem (List.mem_of_head? hfirst)
      rw [mem_look, KindCache.lookup?_eq_some_iff, hc]
      simp [hnew, hfirst]
    · have hdue : name ∉ l.due := fun hmem => by
        cases hnames : l.due with
        | nil => simp [hnames] at hmem
        | cons first rest =>
          rw [hnames] at hmem hdue hfirst
          obtain rfl | hmem := List.mem_cons.mp hmem
          · exact hfirst rfl
          · exact hdue hmem
      obtain ⟨h, hseen, hle, hfound⟩ := hl.told name hdue hheld
      refine ⟨h, hseen, hle, fun o => ?_⟩
      rw [mem_look, ← hfound]
      simp [hfirst]

theorem Follows.begins {c : KindCache α} (hindex : Agree (Contents.ofHistory seen) c.index)
    (hle : seen <+: now) : Follows { due := c.index.names ns } ns seen now where
  seen_le := hle
  ordered := by simpa using c.index.ordered_names ns
  known name hname := hindex.listed.mp (by simpa using hname)
  told name hdue hheld := absurd (hindex.listed.mpr hheld) hdue

/-- Each object found was found at some time by the name it stands under. -/
theorem Follows.found (hl : l.Follows ns seen now) {name : String} {o : α}
    (ho : (name, o) ∈ l.found) :
    ∃ h, seen <+: h ∧ h <+: now ∧ (Contents.ofHistory h).Yields ns name o := by
  have hknown := hl.known name (List.mem_append_left _ (List.mem_map_of_mem ho))
  obtain ⟨h, hseen, hle, hfound⟩ := hl.told name (hl.not_due_of_found ho) hknown
  exact ⟨h, hseen, hle, (hfound o).mp ho⟩

theorem Follows.objects_ordered (hl : l.Follows ns seen now) : l.objects.Pairwise Precedes := by
  have hnames := (List.pairwise_append.mp hl.ordered).1
  rw [List.pairwise_map] at hnames
  refine List.pairwise_map.mpr (hnames.imp_of_mem fun {a b} ha hb hlt => ?_)
  obtain ⟨_, _, _, hya⟩ := hl.found ha
  obtain ⟨_, _, _, hyb⟩ := hl.found hb
  exact ⟨a.1, b.1, hya.name_eq, hyb.name_eq, hlt⟩

end Listing

/-! ## Runs -/

namespace Reading

variable {ns : String} {s : Reading α} {h indexed stored all : List (WatchEvent α)}

theorem Kept.event {c : KindCache α} {e : WatchEvent α} {owed : List String} {r r' : Registry}
    (hs : s.Kept ns indexed stored all) (hidle : s.feed.flight = .idle) (he : e.Named)
    (hstep : Feed.Step s.feed r ⟨c, .collected e owed⟩ r') :
    Kept ns { s with feed := ⟨c, .collected e owed⟩ } all all (all ++ [e]) := by
  obtain ⟨⟨cache, flight⟩, listing⟩ := s
  cases hidle
  obtain ⟨hreaches, hnamed, hstore, hindex, hlisting⟩ := hs
  cases hreaches
  cases hstep
  refine ⟨.collected, ?_, hstore, hindex, hlisting⟩
  intro e' he'
  obtain he' | he' := List.mem_append.mp he'
  · exact hnamed e' he'
  · exact List.mem_singleton.mp he' ▸ he

theorem Kept.feed {f : Feed α} {r r' : Registry} (hs : s.Kept ns indexed stored all)
    (hidle : s.feed.flight ≠ .idle) (hstep : Feed.Step s.feed r f r') :
    ∃ indexed stored, Kept ns { s with feed := f } indexed stored all := by
  obtain ⟨feed, listing⟩ := s
  obtain ⟨hreaches, hnamed, hstore, hindex, hlisting⟩ := hs
  cases hstep with
  | collect e => exact absurd rfl hidle
  | refuse hw =>
    cases hreaches
    exact absurd hw (KindCache.writeStore?_ne_none (hnamed _ (by simp)))
  | store hw =>
    cases hreaches
    obtain ⟨hcontents, hindex', _⟩ := KindCache.writeStore?_eq_some hw
    refine ⟨_, _, .stored, hnamed, ?_, hindex' ▸ hindex, fun l hl => ?_⟩
    · rw [Contents.ofHistory_append, ← hstore]
      exact hcontents
    · obtain ⟨seen, hl⟩ := hlisting l hl
      exact ⟨seen, hl.mono (List.prefix_append ..)⟩
  | index =>
    cases hreaches
    refine ⟨_, _, .announcing, hnamed, hstore, ?_, hlisting⟩
    rw [Contents.ofHistory_append]
    exact hindex.note _
  | announce =>
    cases hreaches
    exact ⟨_, _, .announcing, hnamed, hstore, hindex, hlisting⟩
  | finish =>
    cases hreaches
    exact ⟨_, _, .idle, hnamed, hstore, hindex, hlisting⟩

/-- By induction on the run: the feed moves the store on and then the index, and the reader never
looks further back than the index did when the names were read. -/
theorem Run.kept (hr : Run ns h s) : ∃ indexed stored, s.Kept ns indexed stored h := by
  induction hr with
  | start =>
    refine ⟨[], [], .idle, by simp, Store.contents_empty, Agree.nothing, fun l hl => by cases hl⟩
  | event _ hidle he hstep ih =>
    obtain ⟨_, _, hs⟩ := ih
    exact ⟨_, _, hs.event hidle he hstep⟩
  | feed _ hidle hstep ih =>
    obtain ⟨_, _, hs⟩ := ih
    exact hs.feed hidle hstep
  | begin _ _ _ ih =>
    obtain ⟨indexed, stored, hs⟩ := ih
    refine ⟨indexed, stored, hs.reaches, hs.named, hs.store, hs.index, fun l hl => ?_⟩
    cases hl
    exact ⟨indexed, .begins hs.index hs.reaches.stored_le.1⟩
  | look _ hlisting ih =>
    obtain ⟨indexed, stored, hs⟩ := ih
    refine ⟨indexed, stored, hs.reaches, hs.named, hs.store, hs.index, fun l hl => ?_⟩
    cases hl
    obtain ⟨seen, hfollows⟩ := hs.listing _ hlisting
    exact ⟨seen, hfollows.look hs.store⟩

theorem Run.follows (hr : Run ns h s) {l : Listing α} (hl : s.listing = some l) :
    ∃ seen, l.Follows ns seen h := by
  obtain ⟨_, _, hs⟩ := hr.kept
  obtain ⟨seen, hfollows⟩ := hs.listing l hl
  exact ⟨seen, hfollows.mono hs.reaches.stored_le.2⟩

/-! ### Steps taken in one go -/

theorem Run.store {c c' : KindCache α} {e : WatchEvent α} {owed : List String}
    {listing : Option (Listing α)} (hr : Run ns h { feed := ⟨c, .collected e owed⟩, listing })
    (hs : c.writeStore? e = some c') : Run ns h { feed := ⟨c', .stored e owed⟩, listing } :=
  .feed (r := {}) hr (fun hidle => nomatch hidle) (.store hs)

theorem Run.finish {c : KindCache α} {owed : List String} {listing : Option (Listing α)}
    (hr : Run ns h { feed := ⟨c, .announcing owed⟩, listing }) :
    Run ns h { feed := ⟨c, .idle⟩, listing } := by
  induction owed with
  | nil => exact .feed (r := {}) hr (fun hidle => nomatch hidle) .finish
  | cons _ _ ih => exact ih (.feed (r := {}) hr (fun hidle => nomatch hidle) .announce)

/-- An event whose steps are taken in one go does what `KindCache.apply` does. -/
theorem Run.apply {c : KindCache α} {listing : Option (Listing α)}
    (hr : Run ns h { feed := ⟨c, .idle⟩, listing }) {e : WatchEvent α} (he : e.Named) :
    Run ns (h ++ [e]) { feed := ⟨(c.apply e).1, .idle⟩, listing } := by
  obtain ⟨stored, hs, happly⟩ := c.apply_written he
  have hcollected := Run.event (r := {}) hr rfl he (.collect e)
  have hindexed := Run.feed (r := {}) (hcollected.store hs) (fun hidle => nomatch hidle) .index
  rw [happly]
  exact hindexed.finish

theorem Run.lookAll {l : Listing α} (hr : Run ns h s) (hl : s.listing = some l) :
    ∃ l', Run ns h { s with listing := some l' } ∧ l'.due = [] ∧
      l'.objects = l.objects ++ l.due.filterMap (s.feed.cache.lookup? ns) := by
  induction hdue : l.due generalizing s l with
  | nil =>
    obtain ⟨feed, listing⟩ := s
    cases hl
    exact ⟨l, hr, hdue, by simp⟩
  | cons name rest ih =>
    obtain ⟨l', hr', hdue', hobjects⟩ := ih (hr.look hl) rfl (by rw [Listing.due_look, hdue]; rfl)
    refine ⟨l', hr', hdue', ?_⟩
    rw [hobjects, Listing.objects_look hdue, List.append_assoc, ← List.filterMap_append]
    rfl

/-- A listing whose steps are taken in one go answers what `KindCache.listIn` does. -/
theorem Run.listIn {os : List α} (hr : Run ns h s) (hlisting : s.listing = none)
    (hos : s.feed.cache.listIn ns = .ok os) :
    ∃ l, Run ns h { s with listing := some l } ∧ l.due = [] ∧ l.objects = os := by
  cases hsynced : s.feed.cache.synced with
  | false => cases (KindCache.listIn_unsynced hsynced ns).symm.trans hos
  | true =>
    obtain ⟨l, hr, hdue, hobjects⟩ := (hr.begin hlisting hsynced).lookAll rfl
    rw [KindCache.listIn_synced hsynced] at hos
    cases hos
    exact ⟨l, hr, hdue, hobjects⟩

end Reading

/-! ## What stands in a listing -/

/-- What stands in a listing, in whatever order the reader and the feed take their steps. It is in
the order of the names, which the namespace had all at once when they were read. Every object bears
the name it was looked up by. It lies in the namespace, unless by the time of its look-up the
namespace had lost the name and there was an object of that name outside all namespaces: then that
object stands in its place. -/
theorem listing_amid_writes {ns : String} {h : List (WatchEvent α)} {s : Reading α} {l : Listing α}
    (hr : Reading.Run ns h s) (hl : s.listing = some l) :
    l.objects.Pairwise Precedes ∧
      (∃ seen, l.Follows ns seen h) ∧
      (∀ name o, (name, o) ∈ l.found → (Resource.metadata o).name = some name ∧
        ((Resource.metadata o).ns = some ns ∨ (Resource.metadata o).ns = none ∧
          ∃ held gone, held <+: gone ∧ gone <+: h ∧
            (Contents.ofHistory held ⟨some ns, name⟩).isSome ∧
            Contents.ofHistory gone ⟨some ns, name⟩ = none ∧
            Contents.ofHistory gone ⟨none, name⟩ = some o)) ∧
      ((∀ e ∈ h, ∀ o ∈ e.objects, (Resource.metadata o).ns ≠ none) →
        ∀ o ∈ l.objects, (Resource.metadata o).ns = some ns) := by
  obtain ⟨seen, hfollows⟩ := hr.follows hl
  refine ⟨hfollows.objects_ordered, ⟨seen, hfollows⟩, fun name o ho => ?_, fun hscoped o ho => ?_⟩
  · obtain ⟨now, hseen, hnow, hyields⟩ := hfollows.found ho
    refine ⟨hyields.name_eq, ?_⟩
    obtain hns | ⟨hnone, hgone, hheld⟩ := hyields.ns_eq_or_gone
    · exact .inl hns
    · have hknown := hfollows.known name (List.mem_append_left _ (List.mem_map_of_mem ho))
      exact .inr ⟨hnone, seen, now, hseen, hnow, hknown, hgone, hheld⟩
  · obtain ⟨⟨name, _⟩, hfound, rfl⟩ := List.mem_map.mp ho
    obtain ⟨now, _, hnow, hyields⟩ := hfollows.found hfound
    obtain hns | ⟨hnone, _, hheld⟩ := hyields.ns_eq_or_gone
    · exact hns
    · obtain ⟨e, he, hdelivered⟩ := Contents.mem_objects_of_ofHistory hheld
      exact absurd hnone (hscoped e (hnow.subset he) _ hdelivered)

/-! ### An orphan in place of a deleted pod -/

/-- Two pods of one name, one of them outside all namespaces. -/
def twoOfOneName : WatchEvent Pod :=
  .restarted [KindCache.namedPod (some "ns1") "a" "1", KindCache.namedPod none "a" "2"]

def firstDeleted : WatchEvent Pod := .deleted (KindCache.namedPod (some "ns1") "a" "1")

/-- The deletion is in the store, and not yet in the index. -/
def orphanFeed : Feed Pod :=
  let c := (KindCache.empty.apply twoOfOneName).1
  { cache := { c.count firstDeleted with store := c.store.erase ⟨some "ns1", "a"⟩ }
    flight := .stored firstDeleted (c.touched firstDeleted) }

def orphanListing : Listing Pod := { due := [], found := [("a", KindCache.namedPod none "a" "2")] }

/-- The name was read before the deletion, and looked up after it. -/
theorem run_orphanListing : Reading.Run "ns1" [twoOfOneName, firstDeleted]
    { feed := orphanFeed, listing := some orphanListing } := by
  have hnamed : twoOfOneName.Named ∧ firstDeleted.Named := by
    simp [twoOfOneName, firstDeleted, WatchEvent.Named, WatchEvent.objects, KindCache.namedPod,
      Resource.metadata]
  have hlisted : Reading.Run "ns1" [twoOfOneName] _ := Reading.Run.start.apply hnamed.1
  have hbegun := hlisted.begin rfl (by decide +kernel)
  have hcollected := Reading.Run.event (r := {}) hbegun rfl hnamed.2 (.collect firstDeleted)
  have hlooked := (hcollected.store rfl).look rfl
  have hlisting : Listing.look
      { due := (KindCache.empty.apply twoOfOneName).1.index.names "ns1" } orphanFeed.cache "ns1" =
        orphanListing := by decide +kernel
  exact hlisting ▸ hlooked

theorem listing_meets_orphan :
    Reading.Run "ns1" [twoOfOneName, firstDeleted]
        { feed := orphanFeed, listing := some orphanListing } ∧
      orphanListing.due = [] ∧
      ∃ o ∈ orphanListing.objects, (Resource.metadata o).ns ≠ some "ns1" :=
  ⟨run_orphanListing, rfl, KindCache.namedPod none "a" "2", .head _, by decide +kernel⟩

theorem listing_amid_writes_orphan :
    Reading.Run "ns1" [twoOfOneName, firstDeleted]
        { feed := orphanFeed, listing := some orphanListing } ∧
      orphanListing.objects.Pairwise Precedes ∧
      ∃ held gone, held <+: gone ∧ gone <+: [twoOfOneName, firstDeleted] ∧
        (Contents.ofHistory held ⟨some "ns1", "a"⟩).isSome ∧
        Contents.ofHistory gone ⟨some "ns1", "a"⟩ = none ∧
        Contents.ofHistory gone ⟨none, "a"⟩ = some (KindCache.namedPod none "a" "2") := by
  obtain ⟨hordered, _, hfound, _⟩ := listing_amid_writes run_orphanListing rfl
  refine ⟨run_orphanListing, hordered, ?_⟩
  obtain ⟨_, hns | ⟨_, hgone⟩⟩ := hfound "a" (KindCache.namedPod none "a" "2") (.head _)
  · cases hns
  · exact hgone

end SandboxWatch
