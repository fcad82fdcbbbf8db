import SandboxWatch.NameMap

/-!
# SandboxWatch.Groups

Values grouped under names. A name whose last value goes has no entry any more.

* `Groups.values`        — the values under a name, none where the name has no entry.
* `Groups.add`, `remove` — one value more or less; `mem_values_add` and `mem_values_remove` say what
  is there afterwards.
* `Groups.NoneEmpty`     — no name has an entry without values; both operations keep it so, and then
  the values tell everything.
-/

namespace SandboxWatch

abbrev Groups (β : Type) [Ord β] := NameMap (Std.ExtTreeSet β)

namespace Groups

variable {β : Type} [Ord β]

def values (g : Groups β) (name : String) : Std.ExtTreeSet β := g[name]?.getD ∅

theorem values_of_getElem? {g : Groups β} {name : String} {bs : Std.ExtTreeSet β}
    (h : g[name]? = some bs) : g.values name = bs := by
  rw [values, h]
  rfl

theorem values_insert {g : Groups β} {name name' : String} {bs : Std.ExtTreeSet β} :
    values (g.insert name bs : Groups β) name' = if name' = name then bs else g.values name' := by
  by_cases h : name' = name
  · subst h; simp [values]
  · simp [values, Std.ExtTreeMap.getElem?_insert, h, Ne.symm h]

theorem values_erase {g : Groups β} {name name' : String} :
    values (g.erase name : Groups β) name' = if name' = name then ∅ else g.values name' := by
  by_cases h : name' = name
  · subst h; simp [values]
  · simp [values, Std.ExtTreeMap.getElem?_erase, h, Ne.symm h]

/-- No name has an entry without values. -/
def NoneEmpty (g : Groups β) : Prop := ∀ name : String, g[name]? ≠ some (∅ : Std.ExtTreeSet β)

theorem noneEmpty_empty : NoneEmpty (∅ : Groups β) := by
  intro name
  simp

variable [Std.TransOrd β]

def add (g : Groups β) (name : String) (b : β) : Groups β :=
  g.insert name ((g.values name).insert b)

def remove (g : Groups β) (name : String) (b : β) : Groups β :=
  match g[name]? with
  | none => g
  | some bs =>
    let left := bs.erase b
    if left.isEmpty then g.erase name else g.insert name left

variable {g : Groups β} {name name' : String} {b b' : β}

/-! ## Names without values -/

theorem noneEmpty_add (h : g.NoneEmpty) : (g.add name b).NoneEmpty := by
  intro other
  rw [add, Std.ExtTreeMap.getElem?_insert]
  split
  · simp
  · exact h other

theorem noneEmpty_remove (h : g.NoneEmpty) : (g.remove name b).NoneEmpty := by
  intro other
  unfold remove
  cases hg : g[name]? with
  | none => exact h other
  | some bs =>
    dsimp only
    split <;> rename_i hempty
    · rw [Std.ExtTreeMap.getElem?_erase]
      split
      · simp
      · exact h other
    · rw [Std.ExtTreeMap.getElem?_insert]
      split
      · intro hleft
        exact hempty (Std.ExtTreeSet.isEmpty_iff.mpr (Option.some.inj hleft))
      · exact h other

/-- Where no entry is empty, a name has an entry exactly if it has values. -/
theorem NoneEmpty.mem_iff (h : g.NoneEmpty) : name ∈ g ↔ ∃ b, b ∈ g.values name := by
  rw [Std.ExtTreeMap.mem_iff_isSome_getElem?]
  cases hg : g[name]? with
  | none => simp [values, hg]
  | some bs =>
    rw [values_of_getElem? hg]
    simp only [Option.isSome_some, true_iff]
    refine Classical.byContradiction fun hnone => h name ?_
    rw [hg, Std.ExtTreeSet.eq_empty_iff_forall_not_mem.mpr fun b hb => hnone ⟨b, hb⟩]

/-! ## Values afterwards -/

variable [Std.LawfulEqOrd β]

@[simp] theorem mem_values_add :
    b' ∈ (g.add name b).values name' ↔ (name' = name ∧ b' = b) ∨ b' ∈ g.values name' := by
  rw [add, values_insert]
  by_cases h : name' = name
  · subst h
    rw [if_pos rfl, Std.ExtTreeSet.mem_insert, Std.compare_eq_iff_eq, eq_comm (a := b)]
    simp
  · simp [h]

@[simp] theorem mem_values_remove :
    b' ∈ (g.remove name b).values name' ↔ b' ∈ g.values name' ∧ ¬(name' = name ∧ b' = b) := by
  unfold remove
  cases hg : g[name]? with
  | none =>
    simp only [iff_self_and]
    rintro hmem ⟨rfl, rfl⟩
    simp [values, hg] at hmem
  | some bs =>
    have hbs : g.values name = bs := by simp [values, hg]
    have hleft : b' ∈ bs.erase b ↔ b' ∈ bs ∧ b' ≠ b := by
      rw [Std.ExtTreeSet.mem_erase, ne_eq, Std.compare_eq_iff_eq, eq_comm (a := b), and_comm]
    dsimp only
    split <;> rename_i hempty
    · rw [values_erase]
      by_cases h : name' = name
      · subst h
        have : b' ∉ bs.erase b := by rw [Std.ExtTreeSet.isEmpty_iff.mp hempty]; simp
        simp [hbs, ← hleft, this]
      · simp [h]
    · rw [values_insert]
      by_cases h : name' = name
      · subst h; simp [hbs, hleft]
      · simp [h]

/-- Groups without empty entries are told apart by their values. -/
theorem NoneEmpty.ext {g' : Groups β} (h : g.NoneEmpty) (h' : g'.NoneEmpty)
    (hvalues : ∀ (name : String) (b : β), b ∈ g.values name ↔ b ∈ g'.values name) : g = g' := by
  refine Std.ExtTreeMap.ext_getElem? fun name => ?_
  have heq : g.values name = g'.values name := Std.ExtTreeSet.ext_mem (hvalues name)
  have hmem : name ∈ g ↔ name ∈ g' := by rw [h.mem_iff, h'.mem_iff, heq]
  rw [Std.ExtTreeMap.mem_iff_isSome_getElem?, Std.ExtTreeMap.mem_iff_isSome_getElem?] at hmem
  cases hg : g[name]? with
  | none =>
    have hnone : ¬(g'[name]?).isSome := by rw [← hmem, hg]; simp
    rw [Option.not_isSome_iff_eq_none.mp hnone]
  | some bs =>
    obtain ⟨bs', hg'⟩ := Option.isSome_iff_exists.mp (hmem.mp (by rw [hg]; rfl))
    rw [hg', ← values_of_getElem? hg, ← values_of_getElem? hg', heq]

end Groups
end SandboxWatch
