import SandboxWatch.Proofs.CommandLine.Beside
import SandboxWatch.Proofs.CommandLine.Steps

/-!
# SandboxWatch.Proofs.CommandLine.Insertion

An option that a command line lacks can be put in wherever an option may stand. Wherever that is, the
run gains this setting and nothing else.

* `Gains`              — one run has a setting that the other lacks, and is the same otherwise.
* `Cursor.Beside`      — two command lines read side by side, of which the second has the setting.
* `Steps.beside`       — they stay side by side while the same words are read.
* `interpret_insert`   — the command line with the option leads to a run that gains the setting.
* `interpret_remove`   — if it leads to a run with the option, it does so without.
* `interpret_insert_unreadable` — with a value that cannot be read it is rejected.
-/

namespace SandboxWatch.CommandLine

/-- The second run has the setting with this value, the first lacks it, and there is no other
difference. Where no output is given it is the one for human readers. -/
inductive Gains : Setting → String → Invocation → Invocation → Prop where
  | output {i : Invocation} {value : String} {f : OutputFormat} :
      i.output = .human → OutputFormat.ofText? value = some f →
      Gains .output value i { i with output := f }
  | memberLabel {i : Invocation} {value : String} : i.memberLabel = none →
      Gains .memberLabel value i { i with memberLabel := some value }
  | serviceLabel {i : Invocation} {value : String} : i.serviceLabel = none →
      Gains .serviceLabel value i { i with serviceLabel := some value }
  | syncTimeout {i : Invocation} {value : String} {n : UInt64} : i.syncTimeout = none →
      Config.seconds? value = some n → Gains .syncTimeout value i { i with syncTimeout := some n }

variable {s : Setting} {v word : String} {words before after : List String} {p p₁ q : Place}
  {cur cur' cur₂ cur₂' : Cursor} {g g' : Given} {i : Invocation}

theorem Gains.of_set (h : g.set s v = .ok g') (c : Command) (ns : String) :
    Gains s v (g.invocation c ns) (g'.invocation c ns) := by
  cases s with
  | output =>
    obtain ⟨hnone, f, hf, rfl⟩ := Given.set_output_eq_ok.mp h
    exact .output (by simp [Given.invocation, hnone]) hf
  | memberLabel =>
    obtain ⟨hnone, rfl⟩ := Given.set_memberLabel_eq_ok.mp h
    exact .memberLabel hnone
  | serviceLabel =>
    obtain ⟨hnone, rfl⟩ := Given.set_serviceLabel_eq_ok.mp h
    exact .serviceLabel hnone
  | syncTimeout =>
    obtain ⟨hnone, n, hn, rfl⟩ := Given.set_syncTimeout_eq_ok.mp h
    exact .syncTimeout hnone hn

/-! ## Reading side by side -/

/-- The second command line has the setting, before the command or after it. Neither place of the
first has it. -/
inductive Cursor.Beside (s : Setting) (v : String) : Cursor → Cursor → Prop where
  | overview {p q : Place} : CommandLine.Beside s v p q → Beside s v (.overview p) (.overview q)
  | before {outer outer' inner inner' : Place} {c : Command} {ns : Option String} :
      CommandLine.Beside s v outer outer' → CommandLine.Beside s v inner inner' →
      Beside s v (.command outer c inner ns) (.command outer' c inner ns)
  | after {outer outer' inner inner' : Place} {c : Command} {ns : Option String} :
      CommandLine.Beside s v outer outer' → CommandLine.Beside s v inner inner' →
      Beside s v (.command outer c inner ns) (.command outer c inner' ns)

theorem Beside.ready_iff (h : Beside s v p q) : q.Ready ↔ p.Ready :=
  ⟨fun hq => ⟨h.escaped ▸ hq.escaped, h.isDue ▸ hq.notDue⟩,
    fun hp => ⟨h.escaped.trans hp.escaped, h.isDue.trans hp.notDue⟩⟩

/-- The word of a setting is read by checking what is held and giving the value. -/
theorem Place.read_word_eq_goesOn (hready : p.Ready) : p.read (s.word v) = .goesOn q ↔
    ∃ p₁ g, p.settle = .ok p₁ ∧ p₁.given.set s v = .ok g ∧ q = { p₁ with given := g } := by
  rw [read_of_unescaped hready.escaped, Word.ofText_word, Reading.ofExcept_eq_goesOn, ← set_eq_ok]
  simp [readLong]

/-- A place that has read the word of a setting is beside the place before it. -/
theorem Beside.of_read_word (hready : p.Ready) (h : p.read (s.word v) = .goesOn q) :
    Beside s v p q := by
  obtain ⟨p₁, g, hp, hset, rfl⟩ := (Place.read_word_eq_goesOn hready).mp h
  obtain ⟨g₁, rfl⟩ := Place.eq_of_settle hp
  exact .free rfl rfl hready.notDue rfl (.ok hp hset (Place.settle_of_none rfl))

/-- The word of a setting is never the command or the namespace. -/
theorem Step.read_word (hready : cur.place.Ready) (h : Step cur (s.word v) cur') :
    cur.place.read (s.word v) = .goesOn cur'.place := by
  cases h with
  | before h | after h => exact h
  | command _ hc => exact absurd (Command.ofText?_eq_some.mp hc) (s.word_ne_text v _)
  | sandbox h =>
    obtain hesc | ⟨hplain, -⟩ := Place.read_eq_plain.mp h
    · exact absurd (hready.escaped.symm.trans hesc) (by decide)
    · simp at hplain

theorem Place.read_word_unreadable (hset : ∀ g g' : Given, g.set s v ≠ .ok g') (hready : p.Ready)
    (hp : p.settle = .ok p₁) : ∃ e, p.read (s.word v) = .stops (.rejected e) := by
  cases he : p₁.given.set s v with
  | ok g => exact absurd he (hset _ _)
  | error e =>
    refine ⟨e, ?_⟩
    rw [read_of_unescaped hready.escaped, Word.ofText_word]
    simp [readLong, set, settled, hp, he, Reading.ofExcept]

namespace Cursor.Beside

theorem start (hset : ({} : Given).set s v = .ok g) :
    Cursor.Beside s v .start (.overview { page := .overview, given := g }) :=
  .overview (.of_none rfl hset)

/-- A word that is not about the setting keeps the command lines side by side. -/
theorem step (hset : ({} : Given).set s v = .ok g) (h : Cursor.Beside s v cur cur₂)
    (hword : cur.place.escaped = false → s.named word = false) (hstep : Step cur word cur') :
    ∃ cur₂', Step cur₂ word cur₂' ∧ Cursor.Beside s v cur' cur₂' := by
  cases hstep with
  | before hread =>
    obtain ⟨hp⟩ := h
    obtain ⟨_, hread', h'⟩ := (hp.read hword).goesOn_left hread
    exact ⟨_, .before hread', .overview h'⟩
  | command hready hc =>
    obtain ⟨hp⟩ := h
    exact ⟨_, .command (hp.ready_iff.mpr hready) hc, .before hp (.of_none rfl hset)⟩
  | after hread =>
    cases h with
    | before ho hi =>
      obtain ⟨_, -, hi'⟩ := (hi.read hword).goesOn_left hread
      exact ⟨_, .after hread, .before ho hi'⟩
    | after ho hi =>
      obtain ⟨_, hread', hi'⟩ := (hi.read hword).goesOn_left hread
      exact ⟨_, .after hread', .after ho hi'⟩
  | sandbox hread hsettle =>
    cases h with
    | before ho hi =>
      obtain ⟨_, -, -, hi'⟩ := hi.settle_left hsettle
      exact ⟨_, .sandbox hread hsettle, .before ho hi'⟩
    | after ho hi =>
      obtain ⟨_, -, hsettle', hi'⟩ := hi.settle_left hsettle
      exact ⟨_, .sandbox ((hi.read hword).plain_iff.mp hread) hsettle', .after ho hi'⟩

/-- What the second command line can read, the first can. -/
theorem step_back (hset : ({} : Given).set s v = .ok g) (h : Cursor.Beside s v cur cur₂)
    (hword : cur.place.escaped = false → s.named word = false) (hstep : Step cur₂ word cur₂') :
    ∃ cur', Step cur word cur' ∧ Cursor.Beside s v cur' cur₂' := by
  cases h with
  | overview hp =>
    cases hstep with
    | before hread =>
      obtain ⟨_, hread', h'⟩ := (hp.read hword).goesOn_right hread
      exact ⟨_, .before hread', .overview h'⟩
    | command hready hc =>
      exact ⟨_, .command (hp.ready_iff.mp hready) hc, .before hp (.of_none rfl hset)⟩
  | before ho hi =>
    cases hstep with
    | after hread =>
      obtain ⟨_, -, hi'⟩ := (hi.read hword).goesOn_left hread
      exact ⟨_, .after hread, .before ho hi'⟩
    | sandbox hread hsettle =>
      obtain ⟨_, -, -, hi'⟩ := hi.settle_left hsettle
      exact ⟨_, .sandbox hread hsettle, .before ho hi'⟩
  | after ho hi =>
    cases hstep with
    | after hread =>
      obtain ⟨_, hread', hi'⟩ := (hi.read hword).goesOn_right hread
      exact ⟨_, .after hread', .after ho hi'⟩
    | sandbox hread hsettle =>
      obtain ⟨_, hsettle', hi'⟩ := hi.settle_right hsettle
      exact ⟨_, .sandbox ((hi.read hword).plain_iff.mpr hread) hsettle', .after ho hi'⟩

/-- The first command line can read the word of the setting. -/
theorem can_read_word (h : Cursor.Beside s v cur cur₂) (hready : cur.place.Ready)
    (hp : cur.place.settle = .ok p₁) : ∃ cur₃, Step cur (s.word v) cur₃ := by
  cases h with
  | overview hp' =>
    obtain ⟨g, hset, -, -⟩ := hp'.settle_left hp
    exact ⟨_, .before ((Place.read_word_eq_goesOn hready).mpr ⟨p₁, g, hp, hset, rfl⟩)⟩
  | before ho hi | after ho hi =>
    obtain ⟨g, hset, -, -⟩ := hi.settle_left hp
    exact ⟨_, .after ((Place.read_word_eq_goesOn hready).mpr ⟨p₁, g, hp, hset, rfl⟩)⟩

/-- By reading it, it has gained the setting. -/
theorem of_step_word (h : Cursor.Beside s v cur cur₂) (hready : cur.place.Ready)
    (hstep : Step cur (s.word v) cur') : Cursor.Beside s v cur cur' := by
  have hread := hstep.read_word hready
  cases h with
  | overview _ =>
    cases hstep with
    | before => exact .overview (.of_read_word hready hread)
    | command _ hc => exact absurd (Command.ofText?_eq_some.mp hc) (s.word_ne_text v _)
  | before ho hi | after ho hi =>
    cases hstep with
    | after => exact .after ho (.of_read_word hready hread)
    | sandbox hplain => simp [Cursor.place, hplain] at hread

/-- At the end it makes no difference where the setting was given. -/
theorem gains (h : Cursor.Beside s v cur cur₂) (hrun : cur.read [] = .run i) :
    ∃ i', cur₂.read [] = .run i' ∧ Gains s v i i' := by
  obtain ⟨outer, c, inner, ns, outer₁, inner₁, rfl, ho, hi, rfl⟩ := Cursor.read_nil_eq_run.mp hrun
  cases h with
  | before ho' hi' =>
    obtain ⟨_, hseto, ho₂, -⟩ := ho'.settle_left ho
    obtain ⟨_, hseti, -, -⟩ := hi'.settle_left hi
    obtain ⟨hset, heq⟩ := Given.orElse_set hseti hseto
    refine ⟨_, Cursor.read_nil_eq_run.mpr ⟨_, c, inner, ns, _, inner₁, rfl, ho₂, hi, rfl⟩, ?_⟩
    exact .of_set (heq ▸ hset) c ns
  | after ho' hi' =>
    obtain ⟨_, hseto, -, -⟩ := ho'.settle_left ho
    obtain ⟨_, hseti, hi₂, -⟩ := hi'.settle_left hi
    obtain ⟨hset, -⟩ := Given.orElse_set hseti hseto
    exact ⟨_, Cursor.read_nil_eq_run.mpr ⟨outer, c, _, ns, outer₁, _, rfl, ho, hi₂, rfl⟩,
      .of_set hset c ns⟩

theorem run_back (h : Cursor.Beside s v cur cur₂) (hrun : cur₂.read [] = .run i) :
    ∃ i', cur.read [] = .run i' := by
  obtain ⟨_, c, _, ns, _, _, rfl, ho, hi, -⟩ := Cursor.read_nil_eq_run.mp hrun
  cases h with
  | before ho' _ =>
    obtain ⟨_, ho₁, -⟩ := ho'.settle_right ho
    exact ⟨_, Cursor.read_nil_eq_run.mpr ⟨_, c, _, ns, _, _, rfl, ho₁, hi, rfl⟩⟩
  | after _ hi' =>
    obtain ⟨_, hi₁, -⟩ := hi'.settle_right hi
    exact ⟨_, Cursor.read_nil_eq_run.mpr ⟨_, c, _, ns, _, _, rfl, ho, hi₁, rfl⟩⟩

end Cursor.Beside

section Steps

variable {words : List String}

/-- After a word has been read, only the words up to `--` matter. -/
theorem Step.without {rest : List String} (h : Step cur word cur')
    (hwords : cur.place.escaped = false → Without s (word :: rest))
    (hesc : cur'.place.escaped = false) : Without s rest := by
  obtain ⟨hcur, hword⟩ : cur.place.escaped = false ∧ word ≠ "--" := by
    simpa [h.escaped] using hesc
  exact (hwords hcur).tail hword

/-- As long as no word is about the setting, the command lines stay side by side. -/
theorem Steps.beside (hset : ({} : Given).set s v = .ok g) (hsteps : Steps cur words cur')
    (h : Cursor.Beside s v cur cur₂) (hwords : cur.place.escaped = false → Without s words) :
    ∃ cur₂', Steps cur₂ words cur₂' ∧ Cursor.Beside s v cur' cur₂' := by
  induction hsteps generalizing cur₂ with
  | refl => exact ⟨cur₂, .refl, h⟩
  | cons hstep _ ih =>
    obtain ⟨cur₂', hstep', h'⟩ := h.step hset (fun hesc => (hwords hesc).head) hstep
    obtain ⟨cur₂'', hsteps', h''⟩ := ih h' (hstep.without hwords)
    exact ⟨cur₂'', .cons hstep' hsteps', h''⟩

theorem Steps.beside_back (hset : ({} : Given).set s v = .ok g) (hsteps : Steps cur₂ words cur₂')
    (h : Cursor.Beside s v cur cur₂) (hwords : cur.place.escaped = false → Without s words) :
    ∃ cur', Steps cur words cur' ∧ Cursor.Beside s v cur' cur₂' := by
  induction hsteps generalizing cur with
  | refl => exact ⟨cur, .refl, h⟩
  | cons hstep _ ih =>
    obtain ⟨cur', hstep', h'⟩ := h.step_back hset (fun hesc => (hwords hesc).head) hstep
    obtain ⟨cur'', hsteps', h''⟩ := ih h' (hstep'.without hwords)
    exact ⟨cur'', .cons hstep' hsteps', h''⟩

end Steps

/-! ## Putting an option in -/

/-- Reading comes to the place at which an option may stand. -/
theorem reaches_between (hrun : interpret (before ++ after) = .run i) (hbefore : Between before) :
    ∃ cur, Steps .start before cur ∧ cur.place.Ready ∧ cur.read after = .run i := by
  have hrun : Cursor.start.read (before ++ after) = .run i := hrun
  obtain ⟨cur, hsteps, hafter⟩ := Cursor.steps_of_run hrun
  exact ⟨cur, hsteps, hsteps.ready hbefore rfl fun _ => rfl, hafter⟩

/-- A command line is read to its end. -/
theorem Cursor.last_of_run (hrun : cur.read words = .run i) :
    ∃ last, Steps cur words last ∧ last.read [] = .run i := by
  rw [← List.append_nil words] at hrun
  exact Cursor.steps_of_run hrun

/-- An option that the command line lacks may be put in, and the run gains the setting. -/
theorem interpret_insert (hset : ({} : Given).set s v = .ok g)
    (hrun : interpret (before ++ after) = .run i) (hbefore : Between before)
    (hwords : Without s (before ++ after)) :
    ∃ i', interpret (before ++ s.word v :: after) = .run i' ∧ Gains s v i i' := by
  obtain ⟨hwithout, hrest⟩ := (without_append hbefore.unescaped).mp hwords
  obtain ⟨cur, hsteps, hready, hafter⟩ := reaches_between hrun hbefore
  obtain ⟨p₁, hp₁⟩ := place_checks hafter hready.notDue
  obtain ⟨_, -, hbeside⟩ := hsteps.beside hset (.start hset) fun _ => hwithout
  obtain ⟨cur₃, hstep⟩ := hbeside.can_read_word hready hp₁
  obtain ⟨last, hsteps', hlast⟩ := Cursor.last_of_run hafter
  obtain ⟨last₃, hsteps₃, hbeside'⟩ :=
    hsteps'.beside hset (hbeside.of_step_word hready hstep) fun _ => hrest
  obtain ⟨i', hi', hgains⟩ := hbeside'.gains hlast
  refine ⟨i', ?_, hgains⟩
  calc interpret (before ++ s.word v :: after)
      = cur.read (s.word v :: after) := hsteps.read _
    _ = cur₃.read after := hstep.read _
    _ = last₃.read [] := by simpa using hsteps₃.read []
    _ = .run i' := hi'

/-- An option may be left out again, and its value can be read. -/
theorem interpret_remove (hrun : interpret (before ++ s.word v :: after) = .run i)
    (hbefore : Between before) (hwords : Without s (before ++ after)) :
    (∃ g, ({} : Given).set s v = .ok g) ∧ ∃ i', interpret (before ++ after) = .run i' := by
  obtain ⟨hwithout, hrest⟩ := (without_append hbefore.unescaped).mp hwords
  obtain ⟨cur, hsteps, hready, hafter⟩ := reaches_between hrun hbefore
  obtain ⟨cur₃, hstep⟩ := Cursor.step_of_run hafter
  obtain ⟨_, _, -, hset, -⟩ := (Place.read_word_eq_goesOn hready).mp (hstep.read_word hready)
  obtain ⟨g, hset⟩ := Given.set_empty hset
  rw [hstep.read] at hafter
  obtain ⟨_, -, hbeside⟩ := hsteps.beside hset (.start hset) fun _ => hwithout
  obtain ⟨last₃, hsteps₃, hlast₃⟩ := Cursor.last_of_run hafter
  obtain ⟨last, hsteps', hbeside'⟩ :=
    hsteps₃.beside_back hset (hbeside.of_step_word hready hstep) fun _ => hrest
  obtain ⟨i', hi'⟩ := hbeside'.run_back hlast₃
  refine ⟨⟨g, hset⟩, i', ?_⟩
  calc interpret (before ++ after)
      = cur.read after := hsteps.read _
    _ = last.read [] := by simpa using hsteps'.read []
    _ = .run i' := hi'

/-- A value that cannot be read is not made up for by anything else in the command line. -/
theorem interpret_insert_unreadable (hset : ∀ g g' : Given, g.set s v ≠ .ok g')
    (hrun : interpret (before ++ after) = .run i) (hbefore : Between before) :
    ∃ e, interpret (before ++ s.word v :: after) = .rejected e := by
  obtain ⟨cur, hsteps, hready, hafter⟩ := reaches_between hrun hbefore
  obtain ⟨p₁, hp₁⟩ := place_checks hafter hready.notDue
  obtain ⟨e, he⟩ := Place.read_word_unreadable hset hready hp₁
  refine ⟨e, ?_⟩
  calc interpret (before ++ s.word v :: after)
      = cur.read (s.word v :: after) := hsteps.read _
    _ = (Halt.rejected e).outcome cur.place.page := Cursor.read_of_stops he after

/-- A run whose command line has no word about the setting lacks it. -/
theorem gains_of_without (hset : ({} : Given).set s v = .ok g) (hrun : interpret words = .run i)
    (hwords : Without s words) : ∃ i', Gains s v i i' := by
  rw [← List.nil_append words] at hrun hwords
  obtain ⟨i', -, hgains⟩ := interpret_insert hset hrun ⟨by simp, by simp⟩ hwords
  exact ⟨i', hgains⟩

end SandboxWatch.CommandLine
