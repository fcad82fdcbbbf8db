import SandboxWatch.Proofs.CommandLine.Places

/-!
# SandboxWatch.Proofs.CommandLine.Steps

A command line is read word by word.

* `Cursor`           — how far a command line has been read; `Cursor.read` reads the rest.
* `Step`             — what one word does on the way to a run.
* `Steps.read`       — the words read so far can be left off.
* `Cursor.steps_of_run` — whatever leads to a run has been read in such steps.
* `Steps.ready`      — where an option may stand.
-/

namespace SandboxWatch.CommandLine

/-- How far a command line has been read: up to a word before the command, or after it. -/
inductive Cursor where
  | overview (p : Place)
  | command (outer : Place) (c : Command) (inner : Place) (ns : Option String)

namespace Cursor

def start : Cursor := overview { page := .overview }

/-- The outcome if these words are left. -/
def read : Cursor → List String → Outcome
  | overview p, words => readOverview p words
  | command outer c inner ns, words => readCommand outer c inner ns words

/-- The place that the next word is read at. -/
def place : Cursor → Place
  | overview p => p
  | command _ _ inner _ => inner

end Cursor

/-- A word is read and more may come. -/
inductive Step : Cursor → String → Cursor → Prop where
  | before {p p' : Place} {word : String} : p.read word = .goesOn p' →
      Step (.overview p) word (.overview p')
  | command {p : Place} {word : String} {c : Command} : p.Ready → Command.ofText? word = some c →
      Step (.overview p) word (.command p c { page := .command c } none)
  | after {outer inner inner' : Place} {c : Command} {ns : Option String} {word : String} :
      inner.read word = .goesOn inner' →
      Step (.command outer c inner ns) word (.command outer c inner' ns)
  | sandbox {outer inner inner' : Place} {c : Command} {word : String} :
      inner.read word = .plain → inner.settle = .ok inner' →
      Step (.command outer c inner none) word (.command outer c inner' (some word))

inductive Steps : Cursor → List String → Cursor → Prop where
  | refl {cur : Cursor} : Steps cur [] cur
  | cons {cur cur' cur'' : Cursor} {word : String} {rest : List String} :
      Step cur word cur' → Steps cur' rest cur'' → Steps cur (word :: rest) cur''

variable {cur cur' : Cursor} {word : String} {words rest before after : List String}
  {p outer inner : Place} {c : Command} {ns : Option String} {i : Invocation}

theorem Command.ofText?_eq_some : Command.ofText? word = some c ↔ word = c.text := by
  constructor
  · intro h
    unfold Command.ofText? at h
    split at h <;> cases h <;> rfl
  · rintro rfl
    cases c <;> rfl

theorem Setting.word_ne_text (s : Setting) (v : String) (c : Command) : s.word v ≠ c.text := by
  intro h
  have hword := Word.ofText_word s v
  rw [h] at hword
  cases c <;> cases hword

theorem Command.ofText_text (c : Command) : Word.ofText c.text = .plain := by cases c <;> rfl

/-- Where a command or `help` is recognised, it is no option and no value of one. -/
theorem read_of_isCommand (hword : word = "help" ∨ (Command.ofText? word).isSome)
    (hdue : p.pending.isDue = false) : p.read word = .plain := by
  refine Place.read_eq_plain.mpr (.inr ⟨?_, hdue⟩)
  obtain rfl | h := hword
  · rfl
  · obtain ⟨c, hc⟩ := Option.isSome_iff_exists.mp h
    rw [Command.ofText?_eq_some.mp hc]
    exact c.ofText_text

/-- An option, or the value of one, is read at its place. -/
theorem readOverview_cons (h : p.read word ≠ .plain) (rest : List String) :
    readOverview p (word :: rest) =
      match p.read word with
      | .goesOn p => readOverview p rest
      | .stops halt => halt.outcome p.page
      | .plain => .rejected .unknownCommand := by
  have hcommand : ¬ ((word = "help" ∨ (Command.ofText? word).isSome) ∧ !p.escaped ∧
      !p.pending.isDue) := fun ⟨hword, _, hdue⟩ => h (read_of_isCommand hword (by simpa using hdue))
  rw [readOverview]
  simp only [hcommand, if_false]
  cases hread : p.read word with
  | goesOn | stops => rfl
  | plain => exact absurd hread h

/-- A word that ends the reading ends it wherever it stands. -/
theorem Cursor.read_of_stops {halt : Halt} (h : cur.place.read word = .stops halt)
    (rest : List String) : cur.read (word :: rest) = halt.outcome cur.place.page := by
  cases cur with
  | overview p =>
    rw [place] at h
    have hplain : p.read word ≠ .plain := by simp [h]
    simp [read, readOverview_cons hplain, h, place]
  | command outer c inner ns =>
    rw [place] at h
    simp [read, readCommand, h, place]

namespace Step

/-- The rest of the command line does not see the word. -/
theorem read (h : Step cur word cur') (rest : List String) :
    cur.read (word :: rest) = cur'.read rest := by
  cases h with
  | @before p _ _ h =>
    have hplain : p.read word ≠ .plain := by simp [h]
    simp [Cursor.read, readOverview_cons hplain, h]
  | command hready hc => simp [Cursor.read, readOverview, hc, hready.escaped, hready.notDue]
  | after h => simp [Cursor.read, readCommand, h]
  | sandbox h hsettle => simp [Cursor.read, readCommand, h, hsettle]

theorem escaped (h : Step cur word cur') :
    cur'.place.escaped = (cur.place.escaped || word = "--") := by
  cases h with
  | before h | after h => exact Place.escaped_of_read h
  | command hready hc =>
    rw [Command.ofText?_eq_some.mp hc]
    cases ‹Command› <;> simp [Cursor.place, hready.escaped, Command.text]
  | sandbox h hsettle =>
    obtain ⟨g, rfl⟩ := Place.eq_of_settle hsettle
    obtain hesc | ⟨hplain, -⟩ := Place.read_eq_plain.mp h
    · simp [Cursor.place, hesc]
    · have hword : word ≠ "--" := fun h => by simp [Word.ofText_eq_escape.mpr h] at hplain
      simp [Cursor.place, hword]

/-- After a word that asks for no value none is due. -/
theorem notDue (h : Step cur word cur') (hword : word ≠ "--") (hlast : awaitsValue word = false) :
    cur'.place.pending.isDue = false := by
  cases h with
  | before h | after h => exact (Place.ready_of_read hword hlast h).notDue
  | command => rfl
  | sandbox _ hsettle =>
    obtain ⟨g, rfl⟩ := Place.eq_of_settle hsettle
    rfl

end Step

/-! ## From a run to its steps -/

def Given.invocation (g : Given) (command : Command) (ns : String) : Invocation where
  output := g.output.getD .human
  memberLabel := g.memberLabel
  serviceLabel := g.serviceLabel
  syncTimeout := g.syncTimeout
  verbose := g.verbose
  command
  ns

theorem finish_eq_run : finish outer inner c ns = .run i ↔ ∃ outer' inner' n,
    outer.settle = .ok outer' ∧ inner.settle = .ok inner' ∧ ns = some n ∧
      i = (inner'.given.orElse outer'.given).invocation c n := by
  cases hi : inner.settle with
  | error e => simp [finish, hi]
  | ok inner' =>
    cases ns with
    | none => simp [finish, hi]
    | some n => cases ho : outer.settle <;> simp [finish, hi, ho, Given.invocation, eq_comm]

theorem finishEmpty_ne_run : finishEmpty p ≠ .run i := by
  unfold finishEmpty
  grind

theorem helpTopic_ne_run : helpTopic words ≠ .run i := by
  unfold helpTopic
  grind

theorem Halt.outcome_ne_run {page : HelpPage} {h : Halt} : h.outcome page ≠ .run i := by
  cases h <;> simp [outcome]

namespace Cursor

/-- A command line that leads to a run has a namespace, and nothing in it is left to be checked. -/
theorem read_nil_eq_run : cur.read [] = .run i ↔ ∃ outer c inner ns outer' inner',
    cur = .command outer c inner (some ns) ∧ outer.settle = .ok outer' ∧
      inner.settle = .ok inner' ∧ i = (inner'.given.orElse outer'.given).invocation c ns := by
  cases cur with
  | overview p => simp [read, readOverview, finishEmpty_ne_run]
  | command outer c inner ns =>
    rw [read, readCommand, finish_eq_run]
    constructor
    · rintro ⟨outer', inner', n, ho, hi, rfl, rfl⟩
      exact ⟨outer, c, inner, n, outer', inner', rfl, ho, hi, rfl⟩
    · rintro ⟨_, _, _, n, outer', inner', heq, ho, hi, rfl⟩
      cases heq
      exact ⟨outer', inner', n, ho, hi, rfl, rfl⟩

theorem step_of_run (h : cur.read (word :: rest) = .run i) : ∃ cur', Step cur word cur' := by
  cases cur with
  | overview p =>
    simp only [read, readOverview] at h
    split at h
    case isTrue hcommand =>
      cases hc : Command.ofText? word with
      | some c => exact ⟨_, .command ⟨by simpa using hcommand.2.1, by simpa using hcommand.2.2⟩ hc⟩
      | none => simp [hc, helpTopic_ne_run] at h
    case isFalse =>
      cases hread : p.read word with
      | goesOn p' => exact ⟨_, .before hread⟩
      | stops halt => simp [hread, Halt.outcome_ne_run] at h
      | plain => simp [hread] at h
  | command outer c inner ns =>
    simp only [read, readCommand] at h
    cases hread : inner.read word with
    | goesOn inner' => exact ⟨_, .after hread⟩
    | stops halt => simp [hread, Halt.outcome_ne_run] at h
    | plain =>
      cases ns with
      | some ns => simp [hread] at h
      | none =>
        cases hsettle : inner.settle with
        | error e => simp [hread, hsettle] at h
        | ok inner' => exact ⟨_, .sandbox hread hsettle⟩

/-- Every part of a command line that leads to a run is read in steps. -/
theorem steps_of_run (h : cur.read (before ++ after) = .run i) :
    ∃ cur', Steps cur before cur' ∧ cur'.read after = .run i := by
  induction before generalizing cur with
  | nil => exact ⟨cur, .refl, h⟩
  | cons word rest ih =>
    obtain ⟨cur', hstep⟩ := step_of_run h
    rw [List.cons_append, hstep.read] at h
    obtain ⟨cur'', hsteps, h⟩ := ih h
    exact ⟨cur'', .cons hstep hsteps, h⟩

end Cursor

namespace Steps

theorem read (h : Steps cur before cur') (after : List String) :
    cur.read (before ++ after) = cur'.read after := by
  induction h with
  | refl => rfl
  | cons hstep _ ih => rw [List.cons_append, hstep.read, ih]

/-- Where an option may stand. -/
theorem ready (h : Steps cur before cur') (hbefore : Between before)
    (hesc : cur.place.escaped = false) (hdue : before = [] → cur.place.pending.isDue = false) :
    cur'.place.Ready := by
  induction h with
  | refl => exact ⟨hesc, hdue rfl⟩
  | @cons _ _ _ word rest hstep _ ih =>
    have hword : word ≠ "--" := fun h => hbefore.unescaped (by simp [h])
    refine ih hbefore.tail (by simp [hstep.escaped, hesc, hword]) fun hrest => ?_
    exact hstep.notDue hword (hbefore.last word (by simp [hrest]))

end Steps

/-! ## What is held is checked in the end -/

theorem outer_checks (h : (Cursor.command outer c inner ns).read words = .run i) :
    ∃ p₁, outer.settle = .ok p₁ := by
  induction words generalizing inner ns with
  | nil =>
    obtain ⟨_, _, _, _, outer', _, heq, ho, -⟩ := Cursor.read_nil_eq_run.mp h
    cases heq
    exact ⟨outer', ho⟩
  | cons word rest ih =>
    obtain ⟨cur', hstep⟩ := Cursor.step_of_run h
    rw [hstep.read] at h
    cases hstep with
    | after => exact ih h
    | sandbox => exact ih h

theorem place_checks (h : cur.read words = .run i) (hdue : cur.place.pending.isDue = false) :
    ∃ p₁, cur.place.settle = .ok p₁ := by
  induction words generalizing cur with
  | nil =>
    obtain ⟨_, _, _, _, _, inner', rfl, -, hi, -⟩ := Cursor.read_nil_eq_run.mp h
    exact ⟨inner', hi⟩
  | cons word rest ih =>
    obtain ⟨cur', hstep⟩ := Cursor.step_of_run h
    rw [hstep.read] at h
    cases hstep with
    | command => exact outer_checks h
    | sandbox _ hsettle => exact ⟨_, hsettle⟩
    | before hread | after hread =>
      obtain hp | rfl := Place.checks_of_read hdue hread
      · exact hp
      · -- only `--` leaves the value held, and the rest of the command line has it checked
        obtain ⟨_, hp⟩ := ih h hdue
        exact Place.settle_of_escape hp

end SandboxWatch.CommandLine
