import SandboxWatch.Cache.KindCache
import SandboxWatch.Proofs.Text.ByteOrder

/-!
# SandboxWatch.Proofs.Cache.Contents

What a history of events alone leaves behind, key by key.

* `Contents.ofHistory` — the last word on every key: a later object replaces an earlier one, and a
  full listing replaces everything.
* `Contents.Lists`     — a list holds what lies in a namespace, in the order of the names.
* `Store.contents_write?` — the store after an event holds what the event leaves of it.
-/

namespace SandboxWatch

variable {α : Type} [Resource α]

/-- All objects that the event delivers have names. -/
def WatchEvent.Named (e : WatchEvent α) : Prop :=
  ∀ o ∈ e.objects, (Resource.metadata o).name ≠ none

theorem ObjectKey.of?_eq_some_iff {o : α} {k : ObjectKey} :
    ObjectKey.of? o = some k ↔
      (Resource.metadata o).ns = k.ns ∧ (Resource.metadata o).name = some k.name := by
  obtain ⟨ns, name⟩ := k
  unfold ObjectKey.of?
  split
  · rename_i x hx
    simp [hx]
  · rename_i hx
    simp [hx]

/-- Whether there is anything under a key after an event, given whether there was before. -/
def WatchEvent.Leaves (e : WatchEvent α) (k : ObjectKey) (before : Prop) : Prop :=
  match e with
  | .applied o => ObjectKey.of? o = some k ∨ before
  | .deleted o => ObjectKey.of? o ≠ some k ∧ before
  | .restarted os => ∃ o ∈ os, ObjectKey.of? o = some k

/-- One object comes before another in the order of the bytes of their names. -/
def Precedes (a b : α) : Prop :=
  ∃ x y, (Resource.metadata a).name = some x ∧ (Resource.metadata b).name = some y ∧
    Text.bytes x < Text.bytes y

theorem Precedes.irrefl {a : α} : ¬Precedes a a := by
  rintro ⟨x, y, hx, hy, hlt⟩
  cases hx.symm.trans hy
  exact List.lt_irrefl _ hlt

theorem Precedes.asymm {a b : α} (h : Precedes a b) : ¬Precedes b a := by
  obtain ⟨x, y, hx, hy, hlt⟩ := h
  rintro ⟨y', x', hy', hx', hlt'⟩
  cases hx.symm.trans hx'
  cases hy.symm.trans hy'
  exact List.lt_asymm hlt hlt'

/-! ## Contents -/

abbrev Contents (α : Type) := ObjectKey → Option α

namespace Contents

def nothing : Contents α := fun _ => none

/-- The last of the objects that have the key. -/
def lastOf (os : List α) (k : ObjectKey) : Option α :=
  (os.filter fun o => ObjectKey.of? o = some k).getLast?

/-- What is left after an event. An object without a name has no key and changes nothing. -/
def note (m : Contents α) : WatchEvent α → Contents α
  | .applied o, k => if ObjectKey.of? o = some k then some o else m k
  | .deleted o, k => if ObjectKey.of? o = some k then none else m k
  | .restarted os, k => lastOf os k

def ofHistory (h : List (WatchEvent α)) : Contents α := h.foldl note nothing

theorem of?_of_lastOf {os : List α} {k : ObjectKey} {o : α} (h : lastOf os k = some o) :
    o ∈ os ∧ ObjectKey.of? o = some k := by
  have hmem := List.mem_of_getLast? h
  simpa using hmem

theorem lastOf_cons (o : α) (os : List α) (k : ObjectKey) :
    lastOf (o :: os) k = (lastOf os k).or (if ObjectKey.of? o = some k then some o else none) := by
  by_cases h : ObjectKey.of? o = some k
  · simp [lastOf, h, List.getLast?_cons]
  · simp [lastOf, h]

theorem of?_of_note {m : Contents α} (hm : ∀ {k o}, m k = some o → ObjectKey.of? o = some k)
    {e : WatchEvent α} {k : ObjectKey} {o : α} (h : m.note e k = some o) :
    ObjectKey.of? o = some k := by
  cases e with
  | applied o' =>
    simp only [note] at h
    split at h
    · rename_i ho; cases h; exact ho
    · exact hm h
  | deleted o' =>
    simp only [note] at h
    split at h
    · cases h
    · exact hm h
  | restarted os => exact (of?_of_lastOf h).2

theorem isSome_note {m : Contents α} {e : WatchEvent α} {k : ObjectKey} :
    (m.note e k).isSome ↔ e.Leaves k (m k).isSome := by
  cases e with
  | applied o =>
    rw [note, WatchEvent.Leaves]
    split <;> rename_i ho <;> simp [ho]
  | deleted o =>
    rw [note, WatchEvent.Leaves]
    split <;> rename_i ho <;> simp [ho]
  | restarted os => simp [note, WatchEvent.Leaves, lastOf]

theorem ofHistory_append (h : List (WatchEvent α)) (e : WatchEvent α) :
    ofHistory (h ++ [e]) = (ofHistory h).note e := by
  simp [ofHistory]

/-- What every event keeps true of all that is held is true of all that is left. -/
theorem forall_ofHistory {P : ObjectKey → α → Prop} {h : List (WatchEvent α)}
    (hstep : ∀ m, ∀ e ∈ h, (∀ k o, m k = some o → P k o) →
      ∀ k o, note m e k = some o → P k o) :
    ∀ k o, ofHistory h k = some o → P k o :=
  List.foldlRecOn (motive := fun m => ∀ k o, m k = some o → P k o) h note
    (fun _ _ ho => by cases ho) fun m hm e he => hstep m e he hm

theorem of?_of_ofHistory {h : List (WatchEvent α)} {k : ObjectKey} {o : α}
    (ho : ofHistory h k = some o) : ObjectKey.of? o = some k :=
  forall_ofHistory (fun _ _ _ hm _ _ hnote => of?_of_note (hm _ _) hnote) k o ho

theorem mem_objects_of_note {m : Contents α} {e : WatchEvent α} {k : ObjectKey} {o : α}
    (h : m.note e k = some o) : o ∈ e.objects ∨ m k = some o := by
  cases e with
  | applied o' =>
    simp only [note] at h
    split at h
    · cases h
      exact .inl List.mem_cons_self
    · exact .inr h
  | deleted o' =>
    simp only [note] at h
    split at h
    · cases h
    · exact .inr h
  | restarted os => exact .inl (of?_of_lastOf h).1

/-- What is left was delivered. -/
theorem mem_objects_of_ofHistory {h : List (WatchEvent α)} {k : ObjectKey} {o : α}
    (ho : ofHistory h k = some o) : ∃ e ∈ h, o ∈ e.objects := by
  refine forall_ofHistory (P := fun _ o => ∃ e ∈ h, o ∈ e.objects) ?_ k o ho
  intro m e he hm k o hnote
  obtain ho | ho := mem_objects_of_note hnote
  · exact ⟨e, he, ho⟩
  · exact hm k o ho

def Within (m : Contents α) (ns : String) (o : α) : Prop := ∃ name, m ⟨some ns, name⟩ = some o

/-- The list holds what lies in the namespace, each object once and in the order of the names. -/
structure Lists (m : Contents α) (ns : String) (os : List α) : Prop where
  mem : ∀ o, o ∈ os ↔ m.Within ns o
  ordered : os.Pairwise Precedes

theorem Lists.unique {m : Contents α} {ns : String} {os os' : List α} (h : m.Lists ns os)
    (h' : m.Lists ns os') : os = os' := by
  have hnodup : ∀ {l : List α}, l.Pairwise Precedes → l.Nodup := fun hl =>
    hl.imp fun {a b} hab => by rintro rfl; exact Precedes.irrefl hab
  have hperm : os.Perm os' :=
    (List.perm_ext_iff_of_nodup (hnodup h.ordered) (hnodup h'.ordered)).mpr fun o =>
      (h.mem o).trans (h'.mem o).symm
  exact hperm.eq_of_pairwise (fun _ _ _ _ hab hba => absurd hba hab.asymm) h.ordered h'.ordered

end Contents

/-! ## The store -/

namespace Store

def contents (s : Store α) : Contents α := fun k => s[k]?

theorem contents_empty {β : Type} : (∅ : Store β).contents = Contents.nothing := by
  funext k
  simp [contents, Contents.nothing]

theorem contents_insertAll? {s s' : Store α} {os : List α} (h : s.insertAll? os = some s')
    (k : ObjectKey) : s'.contents k = (Contents.lastOf os k).or (s.contents k) := by
  induction os generalizing s with
  | nil =>
    cases h
    simp [Contents.lastOf]
  | cons o rest ih =>
    simp only [insertAll?, insert?] at h
    cases hk : ObjectKey.of? o with
    | none => simp [hk] at h
    | some k' =>
      simp only [hk] at h
      rw [ih h, Contents.lastOf_cons, Option.or_assoc, hk]
      congr 1
      by_cases hkk : k' = k
      · subst hkk; simp [contents]
      · simp [contents, hkk, Std.ExtTreeMap.getElem?_insert]

theorem contents_write? {s s' : Store α} {e : WatchEvent α} (h : s.write? e = some s') :
    s'.contents = s.contents.note e := by
  funext k
  cases e with
  | applied o =>
    simp only [write?, insert?] at h
    cases hk : ObjectKey.of? o with
    | none => simp [hk] at h
    | some k' =>
      simp only [hk, Option.some.injEq] at h
      subst h
      simp [contents, Contents.note, hk, Std.ExtTreeMap.getElem?_insert]
  | deleted o =>
    simp only [write?] at h
    cases hk : ObjectKey.of? o with
    | none => simp [hk] at h
    | some k' =>
      simp only [hk, Option.some.injEq] at h
      subst h
      simp [contents, Contents.note, hk, Std.ExtTreeMap.getElem?_erase]
  | restarted os =>
    rw [contents_insertAll? h]
    simp [contents, Contents.note]

end Store
end SandboxWatch
