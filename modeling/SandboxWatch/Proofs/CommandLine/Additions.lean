import SandboxWatch.Proofs.CommandLine.Insertion

/-!
# SandboxWatch.Proofs.CommandLine.Additions

Several options put into a command line, each wherever an option may stand.

* `Added`        — the options are put in one after the other; `Added.perm` says that it may be in any
  order.
* `Added.run`, `Added.run_back` — the command line with the options leads to a run exactly if the one
  without them does and their values can be read.
* `GainsAll.eq`  — what the run has then.
* `chosen`       — options of which each is given once or not at all.
-/

namespace SandboxWatch.CommandLine

variable {s : Setting} {v : String} {words line : List String} {i i' : Invocation}
  {settings : List (Setting × String)}

/-- The words of these settings have been put into a command line one after the other, each where an
option may stand. -/
inductive Added : List (Setting × String) → List String → List String → Prop where
  | nil {words : List String} : Added [] words words
  | cons {s : Setting} {v : String} {settings : List (Setting × String)}
      {words before after : List String} : Added settings words (before ++ after) →
      Between before → Added ((s, v) :: settings) words (before ++ s.word v :: after)

/-- One run has the settings that the other lacks, and is the same otherwise. -/
inductive GainsAll : List (Setting × String) → Invocation → Invocation → Prop where
  | nil {i : Invocation} : GainsAll [] i i
  | cons {s : Setting} {v : String} {settings : List (Setting × String)} {i i' i'' : Invocation} :
      GainsAll settings i i' → Gains s v i' i'' → GainsAll ((s, v) :: settings) i i''

/-- Two options may change turns: whichever is put in first, the other has its place. -/
theorem Added.swap {o : Setting} {x : String}
    (h : Added ((s, v) :: (o, x) :: settings) words line) :
    Added ((o, x) :: (s, v) :: settings) words line := by
  cases h with
  | @cons _ _ _ _ before after hinner hbefore =>
    generalize hmid : before ++ after = mid at hinner
    cases hinner with
    | @cons _ _ _ _ before' after' hadded hbefore' =>
      -- the word of `o` stands after that of `s`, or before it
      obtain ⟨m, rfl, rfl⟩ | ⟨m, rfl, rfl⟩ :
          (∃ m, before' = before ++ m ∧ after = m ++ o.word x :: after') ∨
            ∃ m, before = before' ++ o.word x :: m ∧ after' = m ++ after := by
        obtain ⟨m, hm, hm'⟩ | ⟨m, hm, hm'⟩ := List.append_eq_append_iff.mp hmid
        · exact .inl ⟨m, hm, hm'⟩
        · cases m with
          | nil => exact .inl ⟨[], by simpa using hm.symm, by simpa using hm'.symm⟩
          | cons w m =>
            cases hm'
            exact .inr ⟨m, hm, rfl⟩
      · have hs : Added ((s, v) :: settings) words (before ++ s.word v :: (m ++ after')) :=
          .cons (by simpa using hadded) hbefore
        have ho : Added ((o, x) :: (s, v) :: settings) words
            ((before ++ s.word v :: m) ++ o.word x :: after') :=
          .cons (by simpa using hs) (hbefore'.insert s v)
        simpa using ho
      · have hs : Added ((s, v) :: settings) words ((before' ++ m) ++ s.word v :: after) :=
          .cons (by simpa using hadded) (hbefore'.erase hbefore)
        have ho : Added ((o, x) :: (s, v) :: settings) words
            (before' ++ o.word x :: (m ++ s.word v :: after)) :=
          .cons (by simpa using hs) hbefore'
        simpa using ho

theorem Added.perm {settings' : List (Setting × String)} (hperm : settings.Perm settings')
    (h : Added settings words line) : Added settings' words line := by
  induction hperm generalizing line with
  | nil => exact h
  | cons _ _ ih =>
    cases h with
    | cons hadded hbefore => exact .cons (ih hadded) hbefore
  | swap => exact h.swap
  | trans _ _ ih₁ ih₂ => exact ih₂ (ih₁ h)

theorem Added.without (h : Added settings words line) (hs : s ∉ settings.map Prod.fst)
    (hwords : Without s words) : Without s line := by
  induction h with
  | nil => exact hwords
  | @cons o x _ _ before after _ hbefore ih =>
    obtain ⟨hne, hs⟩ : s ≠ o ∧ s ∉ List.map Prod.fst _ := List.ne_and_not_mem_of_not_mem_cons hs
    obtain ⟨hwithout, hrest⟩ := (without_append hbefore.unescaped).mp (ih hs hwords)
    refine (without_append hbefore.unescaped).mpr ⟨hwithout, without_cons.mpr (.inr ⟨?_, hrest⟩)⟩
    simpa using hne.symm

/-- Settings of different names that a command line lacks may be put in one after the other. -/
theorem Added.run (h : Added settings words line) (hnodup : (settings.map Prod.fst).Nodup)
    (hset : ∀ s v, (s, v) ∈ settings → ∃ g, ({} : Given).set s v = .ok g)
    (hwords : ∀ s ∈ settings.map Prod.fst, Without s words) (hrun : interpret words = .run i) :
    ∃ i', interpret line = .run i' ∧ GainsAll settings i i' := by
  induction h with
  | nil => exact ⟨i, hrun, .nil⟩
  | @cons s v settings words before after hadded hbefore ih =>
    obtain ⟨hs, hnodup⟩ : s ∉ settings.map Prod.fst ∧ (settings.map Prod.fst).Nodup := by
      simpa using hnodup
    obtain ⟨i₁, hrun₁, hgains₁⟩ := ih hnodup (fun o x hmem => hset o x (by simp [hmem]))
      (fun o hmem => hwords o (by simp [hmem])) hrun
    obtain ⟨g, hg⟩ := hset s v (by simp)
    have hwithout := hadded.without hs (hwords s (by simp))
    obtain ⟨i₂, hrun₂, hgains₂⟩ := interpret_insert hg hrun₁ hbefore hwithout
    exact ⟨i₂, hrun₂, .cons hgains₁ hgains₂⟩

/-- They may be left out again, and their values can be read. -/
theorem Added.run_back (h : Added settings words line) (hnodup : (settings.map Prod.fst).Nodup)
    (hwords : ∀ s ∈ settings.map Prod.fst, Without s words) (hrun : interpret line = .run i) :
    (∀ s v, (s, v) ∈ settings → ∃ g, ({} : Given).set s v = .ok g) ∧
      ∃ i', interpret words = .run i' := by
  induction h generalizing i with
  | nil => exact ⟨by simp, i, hrun⟩
  | @cons s v settings words before after hadded hbefore ih =>
    obtain ⟨hs, hnodup⟩ : s ∉ settings.map Prod.fst ∧ (settings.map Prod.fst).Nodup := by
      simpa using hnodup
    have hwithout := hadded.without hs (hwords s (by simp))
    obtain ⟨hg, i₁, hrun₁⟩ := interpret_remove hrun hbefore hwithout
    obtain ⟨hset, hrun'⟩ := ih hnodup (fun o hmem => hwords o (by simp [hmem])) hrun₁
    refine ⟨fun o x hmem => ?_, hrun'⟩
    obtain heq | hmem := List.mem_cons.mp hmem
    · cases heq
      exact hg
    · exact hset o x hmem

theorem lookup_cons_ne {o : Setting} (hne : s ≠ o) :
    ((o, v) :: settings).lookup s = settings.lookup s := by
  simp [List.lookup_cons, beq_eq_false_iff_ne.mpr hne]

/-- What a run has gained is what the settings say. -/
theorem GainsAll.eq (h : GainsAll settings i i') : i' = { i with
    output := ((settings.lookup .output).bind OutputFormat.ofText?).getD i.output
    memberLabel := (settings.lookup .memberLabel).or i.memberLabel
    serviceLabel := (settings.lookup .serviceLabel).or i.serviceLabel
    syncTimeout := ((settings.lookup .syncTimeout).bind Config.seconds?).or i.syncTimeout } := by
  induction h with
  | nil => simp
  | cons _ hgains ih =>
    cases hgains with
    | output _ hf => simp [ih, lookup_cons_ne, hf]
    | memberLabel _ => simp [ih, lookup_cons_ne]
    | serviceLabel _ => simp [ih, lookup_cons_ne]
    | syncTimeout _ hn => simp [ih, lookup_cons_ne, hn]

/-! ## Each option once -/

/-- The settings that have a value. The limit comes first, since its value may be unreadable. -/
def chosen (value : Setting → Option String) : List (Setting × String) :=
  [.syncTimeout, .output, .memberLabel, .serviceLabel].filterMap fun s => (value s).map (s, ·)

section Chosen

variable {value : Setting → Option String}

@[simp] theorem mem_chosen : (s, v) ∈ chosen value ↔ value s = some v := by
  cases s <;> simp [chosen]

theorem nodup_chosen (value : Setting → Option String) : ((chosen value).map Prod.fst).Nodup := by
  have hfst (order : List Setting) :
      ((order.filterMap fun s => (value s).map (s, ·)).map Prod.fst).Sublist order := by
    induction order with
    | nil => simp
    | cons s rest ih =>
      cases h : value s with
      | none => simpa [h] using ih.cons s
      | some v => simpa [h] using ih.cons_cons s
  exact (hfst _).nodup (by decide)

@[simp] theorem lookup_chosen (value : Setting → Option String) (s : Setting) :
    (chosen value).lookup s = value s := by
  have hlookup (order : List Setting) :
      (order.filterMap fun s => (value s).map (s, ·)).lookup s =
        if s ∈ order then value s else none := by
    induction order with
    | nil => simp
    | cons o rest ih =>
      by_cases hs : s = o
      · subst hs
        cases h : value s <;> simp [h, ih]
      · cases h : value o <;> simp [h, ih, lookup_cons_ne hs, hs]
  have hall : s ∈ [Setting.syncTimeout, .output, .memberLabel, .serviceLabel] := by cases s <;> simp
  rw [chosen, hlookup, if_pos hall]

end Chosen

end SandboxWatch.CommandLine
