import Mathlib.Data.List.Induction
import SandboxWatch.Cache.ClusterCache

/-!
# SandboxWatch.Proofs.Cache.Selection

What a selector that was built pair by pair picks out. Of the pairs with one key only the last one
counts, wherever the others stand, and a candidate is picked if it has what each of those last pairs
asks for.

* `withKey`, `lastValue?` — the pairs with one key, and the value that counts.
* `Meets`                 — a candidate has the last value of every key.
* `asksForLast`           — a selector picks the candidates that meet its pairs, and depends on
  nothing else.
-/

namespace SandboxWatch.Selector

variable {pairs pairs' before after : List (String × String)} {p : String × String}
  {key key' value : String} {labels labels' : Option Labels} {s : Selector}

/-! ## Pairs with one key -/

/-- The pairs with this key, in their order. -/
def withKey (pairs : List (String × String)) (key : String) : List (String × String) :=
  pairs.filter fun p => p.1 = key

def lastValue? (pairs : List (String × String)) (key : String) : Option String :=
  (withKey pairs key).getLast?.map Prod.snd

theorem withKey_append : withKey (before ++ after) key = withKey before key ++ withKey after key :=
  List.filter_append ..

theorem withKey_singleton : withKey [p] key = if p.1 = key then [p] else [] := by
  by_cases h : p.1 = key <;> simp [withKey, h]

theorem withKey_eq_nil_iff : withKey pairs key = [] ↔ key ∉ pairs.map Prod.fst := by
  simp only [withKey, List.filter_eq_nil_iff, decide_eq_true_eq, List.mem_map, not_exists, not_and]

theorem lastValue?_concat :
    lastValue? (pairs ++ [p]) key = if p.1 = key then some p.2 else lastValue? pairs key := by
  rw [lastValue?, withKey_append, withKey_singleton]
  split
  · rw [List.getLast?_concat, Option.map_some]
  · rw [List.append_nil, lastValue?]

theorem lastValue?_eq_none_iff : lastValue? pairs key = none ↔ key ∉ pairs.map Prod.fst := by
  rw [lastValue?, Option.map_eq_none_iff, List.getLast?_eq_none_iff, withKey_eq_nil_iff]

/-- Where no key comes twice there is no order to keep. -/
theorem withKey_eq_of_perm (hperm : pairs.Perm pairs') (hnodup : (pairs.map Prod.fst).Nodup)
    (key : String) : withKey pairs key = withKey pairs' key := by
  have hdistinct : pairs.Pairwise fun p q => p.1 ≠ q.1 := List.pairwise_map.mp hnodup
  have hdistinct' : pairs'.Pairwise fun p q => p.1 ≠ q.1 :=
    hperm.pairwise hdistinct Ne.symm
  refine (hperm.filter _).eq_of_pairwise (fun p q hp hq hne _ => absurd ?_ hne)
    (hdistinct.filter _) (hdistinct'.filter _)
  have hp : p.1 = key := by simpa using (List.mem_filter.mp hp).2
  have hq : q.1 = key := by simpa using (List.mem_filter.mp hq).2
  rw [hp, hq]

theorem withKey_insert (hkey : key ∉ (before ++ after).map Prod.fst) (key' : String) :
    withKey (before ++ (key, value) :: after) key' =
      withKey (before ++ after ++ [(key, value)]) key' := by
  rw [List.append_cons]
  simp only [withKey_append, withKey_singleton]
  by_cases h : key = key'
  · subst h
    have hnone : withKey before key ++ withKey after key = [] := by
      rw [← withKey_append]
      exact withKey_eq_nil_iff.mpr hkey
    obtain ⟨hbefore, hafter⟩ := List.append_eq_nil_iff.mp hnone
    simp [hbefore, hafter]
  · simp [h]

/-! ## Labels of a candidate -/

/-- A candidate without a label map has no label. -/
def label? (labels : Option Labels) (key : String) : Option String := labels.bind (·[key]?)

theorem getElem?_getD_empty : (labels.getD ∅)[key]? = label? labels key := by
  cases labels <;> simp [label?]

theorem accepts_iff_label? :
    s.accepts labels = true ↔
      ∀ key value, s.wanted[key]? = some value → label? labels key = some value := by
  rw [accepts_iff]
  simp only [getElem?_getD_empty]

/-- No label counts but those that are asked for. -/
theorem accepts_congr (h : ∀ key ∈ s.wanted, label? labels key = label? labels' key) :
    s.accepts labels = s.accepts labels' := by
  rw [Bool.eq_iff_iff, accepts_iff_label?, accepts_iff_label?]
  refine forall₂_congr fun key value => forall_congr' fun hwanted => ?_
  obtain ⟨hmem, _⟩ := Std.ExtTreeMap.getElem?_eq_some_iff.mp hwanted
  rw [h key hmem]

theorem accepts_none : s.accepts none = s.accepts (some ∅) :=
  accepts_congr fun key _ => by simp [label?]

theorem accepts_union {added : Labels} (h : ∀ key ∈ s.wanted, key ∉ added) :
    s.accepts (some (labels.getD ∅ ∪ added)) = s.accepts labels := by
  refine accepts_congr fun key hkey => ?_
  rw [label?, Option.bind_some, Std.ExtTreeMap.getElem?_union_of_not_mem_right (h key hkey),
    getElem?_getD_empty]

/-- One more label that is asked for leaves of the candidates those that have it. -/
theorem accepts_insert (hnew : key ∉ s.wanted) :
    (s.insert key value).accepts labels = true ↔
      s.accepts labels = true ∧ label? labels key = some value := by
  simp only [accepts_iff_label?, getElem?_wanted_insert]
  constructor
  · intro h
    refine ⟨fun key' value' hwanted => h key' value' ?_, h key value (if_pos rfl)⟩
    obtain ⟨hmem, _⟩ := Std.ExtTreeMap.getElem?_eq_some_iff.mp hwanted
    have hne : key ≠ key' := fun heq => hnew (heq ▸ hmem)
    rw [if_neg hne, hwanted]
  · rintro ⟨hold, hlabel⟩ key' value' hwanted
    split at hwanted
    case isTrue h =>
      cases hwanted
      exact h ▸ hlabel
    case isFalse => exact hold key' value' hwanted

/-! ## A selector and its pairs -/

theorem ofPairs_concat : ofPairs (pairs ++ [p]) = (ofPairs pairs).insert p.1 p.2 := by
  rw [ofPairs, List.foldl_append]
  rfl

theorem getElem?_wanted_ofPairs : (ofPairs pairs).wanted[key]? = lastValue? pairs key := by
  induction pairs using List.reverseRecOn with
  | nil => exact Std.ExtTreeMap.getElem?_empty
  | append_singleton pairs p ih =>
    rw [ofPairs_concat, getElem?_wanted_insert, lastValue?_concat, ih]

theorem mem_wanted_ofPairs : key ∈ (ofPairs pairs).wanted ↔ key ∈ pairs.map Prod.fst := by
  rw [Std.ExtTreeMap.mem_iff_isSome_getElem?, getElem?_wanted_ofPairs, Option.isSome_iff_ne_none,
    ne_eq, lastValue?_eq_none_iff, not_not]

theorem ofPairs_eq_iff :
    ofPairs pairs = ofPairs pairs' ↔ ∀ key, lastValue? pairs key = lastValue? pairs' key := by
  simp only [← getElem?_wanted_ofPairs]
  refine ⟨fun h key => by rw [h], fun h => ?_⟩
  exact congrArg Selector.mk (Std.ExtTreeMap.ext_getElem? h)

/-- Pairs with different keys may change places. -/
theorem ofPairs_congr (h : ∀ key, withKey pairs key = withKey pairs' key) :
    ofPairs pairs = ofPairs pairs' :=
  ofPairs_eq_iff.mpr fun key => by rw [lastValue?, h key, lastValue?]

/-- A pair whose key is new may as well come last. -/
theorem ofPairs_insert (hkey : key ∉ (before ++ after).map Prod.fst) :
    ofPairs (before ++ (key, value) :: after) = (ofPairs (before ++ after)).insert key value := by
  rw [ofPairs_congr (withKey_insert hkey), ofPairs_concat]

/-- The candidate has every key of the pairs, with the value of the last pair with this key. -/
def Meets (pairs : List (String × String)) (labels : Option Labels) : Prop :=
  ∀ key ∈ pairs.map Prod.fst,
    ∃ value, lastValue? pairs key = some value ∧ label? labels key = some value

theorem accepts_ofPairs_iff : (ofPairs pairs).accepts labels = true ↔ Meets pairs labels := by
  rw [accepts_iff_label?]
  simp only [getElem?_wanted_ofPairs]
  constructor
  · intro h key hkey
    obtain ⟨value, hvalue⟩ : ∃ value, lastValue? pairs key = some value :=
      Option.ne_none_iff_exists'.mp fun hnone => lastValue?_eq_none_iff.mp hnone hkey
    exact ⟨value, hvalue, h key value hvalue⟩
  · intro h key value hvalue
    have hkey : key ∈ pairs.map Prod.fst := by
      by_contra hkey
      rw [lastValue?_eq_none_iff.mpr hkey] at hvalue
      cases hvalue
    obtain ⟨value', hvalue', hlabel⟩ := h key hkey
    rw [hlabel, ← hvalue', hvalue]

/-- A selector asks for the last value of each key of its pairs, and for nothing else. Pairs may
change places as long as those with one key keep their order; one more pair with a new key, wherever
it stands, leaves of the candidates those that have it; and labels under other keys do not matter.
Listings hold the pods that are picked so, in the order in which they are cached. -/
structure AsksForLast (pairs : List (String × String)) : Prop where
  accepts_iff : ∀ labels, (ofPairs pairs).accepts labels = true ↔ Meets pairs labels
  absent : (ofPairs pairs).accepts none = (ofPairs pairs).accepts (some ∅)
  reordered : ∀ pairs', pairs.Perm pairs' → (pairs.map Prod.fst).Nodup →
    ofPairs pairs = ofPairs pairs'
  interleaved : ∀ pairs', (∀ key, withKey pairs key = withKey pairs' key) →
    ofPairs pairs = ofPairs pairs'
  narrowed : ∀ before after key value labels, pairs = before ++ after →
    key ∉ pairs.map Prod.fst →
      ((ofPairs (before ++ (key, value) :: after)).accepts labels = true ↔
        (ofPairs pairs).accepts labels = true ∧ label? labels key = some value)
  unmentioned : ∀ (labels : Option Labels) (added : Labels),
    (∀ key ∈ pairs.map Prod.fst, key ∉ added) →
      (ofPairs pairs).accepts (some (labels.getD ∅ ∪ added)) = (ofPairs pairs).accepts labels
  listed : ∀ (c : ClusterCache) ns held, c.pods.listIn ns = .ok held →
    ∃ picked, c.listPods ns (ofPairs pairs) = .ok picked ∧ picked.Sublist held ∧
      ∀ pod, pod ∈ picked ↔ pod ∈ held ∧ Meets pairs pod.metadata.labels

/-- Whatever pairs come, in whatever order, with keys that come again. -/
theorem asksForLast (pairs : List (String × String)) : AsksForLast pairs where
  accepts_iff labels := accepts_ofPairs_iff
  absent := accepts_none
  reordered pairs' hperm hnodup := ofPairs_congr (withKey_eq_of_perm hperm hnodup)
  interleaved pairs' := ofPairs_congr
  narrowed before after key value labels hpairs hkey := by
    subst hpairs
    rw [ofPairs_insert hkey]
    exact accepts_insert (mem_wanted_ofPairs.not.mpr hkey)
  unmentioned labels added hadded :=
    accepts_union fun key hkey => hadded key (mem_wanted_ofPairs.mp hkey)
  listed c ns held hheld := by
    refine ⟨held.filter fun pod => (ofPairs pairs).accepts pod.metadata.labels, ?_,
      List.filter_sublist, fun pod => ?_⟩
    · rw [ClusterCache.listPods, hheld]
    · rw [List.mem_filter, accepts_ofPairs_iff]

/-- The first of two values for one label is not asked for any more. -/
example :
    (ofPairs [("tier", "web"), ("app", "api"), ("tier", "db")]).accepts
      (some ((∅ : Labels).insert "app" "api" |>.insert "tier" "db")) = true := by
  decide +kernel

end SandboxWatch.Selector
