import SandboxWatch.Proofs.CommandLine.Places

/-!
# SandboxWatch.Proofs.CommandLine.Beside

Two places that read the same words, of which the second has one setting more.

* `Beside`       — two such places; they go on side by side (`Together`) or neither goes on.
* `Beside.settled` — whatever checks what is held first keeps places together.
* `Beside.read`  — a word that is not about the setting does the same at both places.
-/

namespace SandboxWatch.CommandLine

variable {s o : Setting} {v x word name : String} {value : Option String} {letters : List Char}
  {p p₁ q : Place} {g : Given}

/-- Both have checked what they held, and the second has the setting `s` with the value `v` besides;
or neither can. -/
inductive Checked (s : Setting) (v : String) (r r' : Except UsageError Place) : Prop where
  | ok {p : Place} {g : Given} : r = .ok p → p.given.set s v = .ok g →
      r' = .ok { p with given := g } → Checked s v r r'
  | error {e e' : UsageError} : r = .error e → r' = .error e' → Checked s v r r'

/-- The second place has read what the first has, and the setting `s` with the value `v` besides. It
may have checked a value already that the first still holds. -/
inductive Beside (s : Setting) (v : String) : Place → Place → Prop where
  /-- Both await the value of another setting. -/
  | due {p : Place} {g : Given} {o : Setting} : p.pending = .due o → o ≠ s →
      p.given.set s v = .ok g → Beside s v p { p with given := g }
  | free {p q : Place} : q.page = p.page → q.escaped = p.escaped → p.pending.isDue = false →
      q.pending.isDue = false → Checked s v p.settle q.settle → Beside s v p q

/-- Both go on side by side, or neither goes on. -/
inductive Together (s : Setting) (v : String) (r r' : Except Halt Place) : Prop where
  | ok {p q : Place} : r = .ok p → r' = .ok q → Beside s v p q → Together s v r r'
  | error {h h' : Halt} : r = .error h → r' = .error h' → Together s v r r'

namespace Beside

theorem page (h : Beside s v p q) : q.page = p.page := by cases h <;> trivial

theorem escaped (h : Beside s v p q) : q.escaped = p.escaped := by cases h <;> trivial

theorem isDue (h : Beside s v p q) : q.pending.isDue = p.pending.isDue := by
  cases h with
  | due => rfl
  | free _ _ hp hq => rw [hp, hq]

theorem checked (h : Beside s v p q) : Checked s v p.settle q.settle := by
  cases h with
  | due ho => exact .error (Place.settle_of_due ho) (Place.settle_of_due ho)
  | free _ _ _ _ hchecked => exact hchecked

/-- Two places that hold nothing. -/
theorem of_none (hp : p.pending = .none) (hset : p.given.set s v = .ok g) :
    Beside s v p { p with given := g } :=
  .free rfl rfl (by simp [hp, Pending.isDue]) (by simp [hp, Pending.isDue])
    (.ok (Place.settle_of_none hp) hset (Place.settle_of_none hp))

/-- The second place holds a value that the first holds as well. -/
theorem held (hne : o ≠ s) (hset : p.given.set s v = .ok g) (x : String) :
    Beside s v { p with pending := .held o x } { p with given := g, pending := .held o x } := by
  refine .free rfl rfl rfl rfl ?_
  cases hset₁ : p.given.set o x with
  | error e =>
    have hset₂ := Given.set_comm_error hne hset hset₁
    exact .error (Place.settle_held_error hset₁)
      (Place.settle_held_error (p := { p with given := g }) hset₂)
  | ok g₁ =>
    obtain ⟨g', hset', hset₂⟩ := Given.set_comm hne hset hset₁
    exact .ok (Place.settle_held_ok hset₁) hset'
      (Place.settle_held_ok (p := { p with given := g }) hset₂)

theorem escape (h : Beside s v p q) :
    Beside s v { p with escaped := true } { q with escaped := true } := by
  cases h with
  | due ho hne hset => exact .due ho hne hset
  | free hpage _ hp hq hchecked =>
    refine .free hpage rfl hp hq ?_
    rw [Place.settle_escape, Place.settle_escape]
    obtain @⟨p₁, g, hp₁, hset, hq₁⟩ | ⟨hp₁, hq₁⟩ := hchecked
    · rw [hp₁, hq₁]
      exact .ok rfl (p := { p₁ with escaped := true }) hset rfl
    · rw [hp₁, hq₁]
      exact .error rfl rfl

/-- What is done after the check keeps two places together if it does so where nothing is held. -/
theorem settled {next : Place → Except Halt Place} (h : Beside s v p q)
    (hnext : ∀ p₁ g, p₁.pending = .none → p₁.given.set s v = .ok g →
      Together s v (next p₁) (next { p₁ with given := g })) :
    Together s v (p.settled next) (q.settled next) := by
  obtain ⟨hp, hset, hq⟩ | ⟨hp, hq⟩ := h.checked
  · obtain ⟨g, rfl⟩ := Place.eq_of_settle hp
    simpa [Place.settled, hp, hq] using hnext _ _ rfl hset
  · exact .error (by rw [Place.settled, hp]) (by rw [Place.settled, hq])

theorem set (h : Beside s v p q) (hne : o ≠ s) : Together s v (p.set o x) (q.set o x) := by
  refine h.settled fun p₁ g hnone hset => ?_
  cases hset₁ : p₁.given.set o x with
  | error e =>
    rw [Given.set_comm_error hne hset hset₁]
    exact .error rfl rfl
  | ok g₁ =>
    obtain ⟨g', hset', hset₂⟩ := Given.set_comm hne hset hset₁
    rw [hset₂]
    exact .ok rfl rfl (of_none hnone hset')

theorem await (h : Beside s v p q) (hne : o ≠ s) : Together s v (p.await o) (q.await o) :=
  h.settled fun _ _ _ hset => .ok rfl rfl (.due rfl hne hset)

theorem moreVerbose (h : Beside s v p q) : Together s v p.moreVerbose q.moreVerbose :=
  h.settled fun _ _ hnone hset => .ok rfl rfl (of_none hnone (Given.set_moreVerbose hset))

theorem showHelp (h : Beside s v p q) : Together s v p.showHelp q.showHelp :=
  h.settled fun _ _ _ _ => .error rfl rfl

theorem showVersion (h : Beside s v p q) : Together s v p.showVersion q.showVersion :=
  h.settled fun _ _ _ _ => .error rfl rfl

theorem readLong (h : Beside s v p q) (hname : Setting.ofName? name ≠ some s) :
    Together s v (p.readLong name value) (q.readLong name value) := by
  cases ho : Setting.ofName? name with
  | some o =>
    have hne : o ≠ s := fun heq => hname (by rw [ho, heq])
    cases value with
    | some x => simpa [Place.readLong, ho] using h.set hne
    | none => simpa [Place.readLong, ho] using h.await hne
  | none =>
    have hversion : q.hasVersion = p.hasVersion := by simp [Place.hasVersion, h.page]
    simp only [Place.readLong, ho, hversion]
    split
    · split
      · exact .error rfl rfl
      · split
        · exact h.moreVerbose
        · split
          · exact h.showHelp
          · exact h.showVersion
    · exact .error rfl rfl

theorem readShort (h : Beside s v p q) (hletters : s = .output → 'o' ∉ letters) :
    Together s v (p.readShort letters) (q.readShort letters) := by
  induction letters generalizing p q with
  | nil => exact .ok rfl rfl h
  | cons c rest ih =>
    have hversion : q.hasVersion = p.hasVersion := by simp [Place.hasVersion, h.page]
    simp only [Place.readShort, hversion]
    split
    · obtain ⟨hp, hq, h'⟩ | ⟨hp, hq⟩ := h.moreVerbose
      · rw [hp, hq]
        exact ih h' fun hs hmem => hletters hs (by simp [hmem])
      · rw [hp, hq]
        exact .error rfl rfl
    · split
      case isTrue ho =>
        have hne : Setting.output ≠ s := fun hs => hletters hs.symm (by simp [ho])
        split
        · exact h.await hne
        · exact h.set hne
      · split
        · exact h.showHelp
        · split
          · exact h.showVersion
          · exact .error rfl rfl

end Beside

/-- A word brings two places on side by side, or ends the reading at both, or is plain at both. -/
inductive ReadTogether (s : Setting) (v : String) (r r' : Reading) : Prop where
  | goesOn {p q : Place} : r = .goesOn p → r' = .goesOn q → Beside s v p q → ReadTogether s v r r'
  | stops {h h' : Halt} : r = .stops h → r' = .stops h' → ReadTogether s v r r'
  | plain : r = .plain → r' = .plain → ReadTogether s v r r'

theorem Together.reading {r r' : Except Halt Place} (h : Together s v r r') :
    ReadTogether s v (.ofExcept r) (.ofExcept r') := by
  obtain ⟨rfl, rfl, h⟩ | ⟨rfl, rfl⟩ := h
  · exact .goesOn rfl rfl h
  · exact .stops rfl rfl

/-- A word that is not about the setting keeps the places side by side. -/
theorem Beside.read (h : Beside s v p q) (hword : p.escaped = false → s.named word = false) :
    ReadTogether s v (p.read word) (q.read word) := by
  cases hesc : p.escaped with
  | true =>
    exact .plain (Place.read_eq_plain.mpr (.inl hesc))
      (Place.read_eq_plain.mpr (.inl (h.escaped.trans hesc)))
  | false =>
    have hnamed := hword hesc
    have hesc' := h.escaped.trans hesc
    cases ht : Word.ofText word with
    | escape =>
      rw [Place.read_of_unescaped hesc, Place.read_of_unescaped hesc', ht]
      exact .goesOn rfl rfl h.escape
    | long name value =>
      have hname : Setting.ofName? name ≠ some s := by simpa [Setting.named, ht] using hnamed
      rw [Place.read_of_unescaped hesc, Place.read_of_unescaped hesc', ht]
      exact (h.readLong hname).reading
    | short letters =>
      have hletters : s = .output → 'o' ∉ letters := by simpa [Setting.named, ht] using hnamed
      rw [Place.read_of_unescaped hesc, Place.read_of_unescaped hesc', ht]
      exact (h.readShort hletters).reading
    | plain =>
      cases h with
      | due ho hne hset =>
        rw [Place.read_of_unescaped hesc, Place.read_of_unescaped hesc', ht]
        simp only [ho]
        exact .goesOn rfl rfl (.held hne hset word)
      | free _ _ hp hq =>
        exact .plain (Place.read_eq_plain.mpr (.inr ⟨ht, hp⟩))
          (Place.read_eq_plain.mpr (.inr ⟨ht, hq⟩))

section Sides

variable {r r' : Reading} {q₁ : Place}

theorem ReadTogether.goesOn_left (h : ReadTogether s v r r') (hr : r = .goesOn p) :
    ∃ q, r' = .goesOn q ∧ Beside s v p q := by
  obtain ⟨hp, hq, h'⟩ | ⟨hp, -⟩ | ⟨hp, -⟩ := h <;> cases hr.symm.trans hp
  exact ⟨_, hq, h'⟩

theorem ReadTogether.goesOn_right (h : ReadTogether s v r r') (hr : r' = .goesOn q) :
    ∃ p, r = .goesOn p ∧ Beside s v p q := by
  obtain ⟨hp, hq, h'⟩ | ⟨-, hq⟩ | ⟨-, hq⟩ := h <;> cases hr.symm.trans hq
  exact ⟨_, hp, h'⟩

theorem ReadTogether.plain_iff (h : ReadTogether s v r r') : r = .plain ↔ r' = .plain := by
  obtain ⟨hp, hq, -⟩ | ⟨hp, hq⟩ | ⟨hp, hq⟩ := h <;> simp [hp, hq]

theorem Beside.settle_left (h : Beside s v p q) (hp : p.settle = .ok p₁) :
    ∃ g, p₁.given.set s v = .ok g ∧ q.settle = .ok { p₁ with given := g } ∧
      Beside s v p₁ { p₁ with given := g } := by
  obtain ⟨hp', hset, hq⟩ | ⟨hp', -⟩ := h.checked <;> cases hp.symm.trans hp'
  obtain ⟨_, rfl⟩ := Place.eq_of_settle hp
  exact ⟨_, hset, hq, .of_none rfl hset⟩

theorem Beside.settle_right (h : Beside s v p q) (hq : q.settle = .ok q₁) :
    ∃ p₁, p.settle = .ok p₁ ∧ Beside s v p₁ q₁ := by
  obtain ⟨hp, hset, hq'⟩ | ⟨-, hq'⟩ := h.checked <;> cases hq.symm.trans hq'
  obtain ⟨_, rfl⟩ := Place.eq_of_settle hp
  exact ⟨_, hp, .of_none rfl hset⟩

end Sides

end SandboxWatch.CommandLine
