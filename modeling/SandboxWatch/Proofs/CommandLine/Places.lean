import SandboxWatch.Proofs.CommandLine.Options

/-!
# SandboxWatch.Proofs.CommandLine.Places

What one word does to a place.

* `Place.read_eq_goesOn`, `Place.read_eq_plain` — everything a word can do if the reading goes on.
* `Place.ready_of_read`  — a word that asks for no value leaves room for an option.
* `Place.checks_of_read` — a value that is held is checked by the next option.
-/

namespace SandboxWatch.CommandLine

variable {s o : Setting} {v x word name : String} {value : Option String} {letters rest : List Char}
  {c : Char} {p p' p₁ : Place} {g : Given}

@[simp] theorem Reading.ofExcept_eq_goesOn {r : Except Halt Place} :
    Reading.ofExcept r = .goesOn p ↔ r = .ok p := by
  cases r <;> simp [ofExcept]

@[simp] theorem Reading.ofExcept_ne_plain {r : Except Halt Place} :
    Reading.ofExcept r ≠ .plain := by
  cases r <;> simp [ofExcept]

namespace Place

/-! ## Checking what is held -/

/-- A check changes what is given and held, nothing else. -/
theorem eq_of_settle (h : p.settle = .ok p₁) :
    ∃ g, p₁ = { p with given := g, pending := .none } := by
  cases hp : p.pending with
  | none =>
    have hp₁ : p = p₁ := by simpa [settle, hp] using h
    exact ⟨p.given, by rw [← hp₁, ← hp]⟩
  | due o => simp [settle, hp] at h
  | held o x =>
    cases hset : p.given.set o x with
    | error e => simp [settle, hp, hset] at h
    | ok g => exact ⟨g, by simpa [settle, hp, hset, eq_comm] using h⟩

theorem settle_escape (p : Place) : { p with escaped := true }.settle =
    p.settle.map fun p₁ => { p₁ with escaped := true } := by
  cases hp : p.pending with
  | none => simp [settle, hp, Except.map]
  | due o => simp [settle, hp, Except.map]
  | held o x => cases hset : p.given.set o x <;> simp [settle, hp, hset, Except.map]

theorem settle_of_escape (h : { p with escaped := true }.settle = .ok p') :
    ∃ p₁, p.settle = .ok p₁ := by
  rw [settle_escape] at h
  cases hp : p.settle with
  | ok p₁ => exact ⟨p₁, rfl⟩
  | error e => simp [hp, Except.map] at h

theorem settle_held_ok (h : p.given.set o x = .ok g) :
    { p with pending := .held o x }.settle = .ok { p with given := g, pending := .none } := by
  simp [settle, h]

theorem settle_held_error {e : UsageError} (h : p.given.set o x = .error e) :
    { p with pending := .held o x }.settle = .error e := by
  simp [settle, h]

theorem settle_of_none (h : p.pending = .none) : p.settle = .ok p := by simp [settle, h]

theorem settle_of_due (h : p.pending = .due o) : p.settle = .error .invalidValue := by
  simp [settle, h]

theorem settled_eq_ok {α : Type} {next : Place → Except Halt α} {a : α} :
    p.settled next = .ok a ↔ ∃ p₁, p.settle = .ok p₁ ∧ next p₁ = .ok a := by
  cases h : p.settle <;> simp [settled, h]

theorem set_eq_ok : p.set s v = .ok p' ↔
    ∃ p₁ g, p.settle = .ok p₁ ∧ p₁.given.set s v = .ok g ∧ p' = { p₁ with given := g } := by
  rw [set, settled_eq_ok]
  constructor
  · rintro ⟨p₁, hp₁, h⟩
    cases hset : p₁.given.set s v with
    | error e => simp [hset] at h
    | ok g => exact ⟨p₁, g, hp₁, hset, by simpa [hset, eq_comm] using h⟩
  · rintro ⟨p₁, g, hp₁, hset, rfl⟩
    exact ⟨p₁, hp₁, by simp [hset]⟩

theorem await_eq_ok : p.await s = .ok p' ↔
    ∃ p₁, p.settle = .ok p₁ ∧ { p₁ with pending := .due s } = p' := by
  simp [await, settled_eq_ok]

theorem moreVerbose_eq_ok : p.moreVerbose = .ok p' ↔
    ∃ p₁, p.settle = .ok p₁ ∧ { p₁ with given := p₁.given.moreVerbose } = p' := by
  simp [moreVerbose, settled_eq_ok]

theorem showHelp_ne_ok : p.showHelp ≠ .ok p' := by simp [showHelp, settled_eq_ok]

theorem showVersion_ne_ok : p.showVersion ≠ .ok p' := by simp [showVersion, settled_eq_ok]

/-! ## Reading one word -/

/-- A named option that goes on gives a value, asks for one, or asks for more words. -/
theorem readLong_eq_ok : p.readLong name value = .ok p' ↔
    (∃ s v, Setting.ofName? name = some s ∧ value = some v ∧ p.set s v = .ok p') ∨
    (∃ s, Setting.ofName? name = some s ∧ value = none ∧ p.await s = .ok p') ∨
    (Setting.ofName? name = none ∧ name = "verbose" ∧ value = none ∧ p.moreVerbose = .ok p') := by
  cases hname : Setting.ofName? name with
  | some s => cases value <;> simp [readLong, hname]
  | none =>
    by_cases hverbose : name = "verbose"
    · subst hverbose
      cases value <;> simp [readLong, hname]
    · cases value <;> simp [readLong, hname, hverbose] <;> grind [showHelp_ne_ok, showVersion_ne_ok]

theorem readShort_cons_eq_ok : p.readShort (c :: rest) = .ok p' ↔
    (c = 'v' ∧ ∃ p₁, p.moreVerbose = .ok p₁ ∧ p₁.readShort rest = .ok p') ∨
    (c = 'o' ∧ rest = [] ∧ p.await .output = .ok p') ∨
    (c = 'o' ∧ rest ≠ [] ∧ p.set .output (attached rest) = .ok p') := by
  by_cases hv : c = 'v'
  · cases h : p.moreVerbose <;> simp [readShort, hv, h]
  · by_cases ho : c = 'o'
    · cases rest <;> simp [readShort, ho]
    · simp [readShort, hv, ho]
      grind [showHelp_ne_ok, showVersion_ne_ok]

theorem read_of_unescaped (h : p.escaped = false) : p.read word =
    match Word.ofText word with
    | .escape => .goesOn { p with escaped := true }
    | .long name value => .ofExcept (p.readLong name value)
    | .short letters => .ofExcept (p.readShort letters)
    | .plain =>
      match p.pending with
      | .due s => .goesOn { p with pending := .held s word }
      | _ => .plain := by
  have hesc : ¬ p.escaped = true := by simp [h]
  exact if_neg hesc

theorem read_eq_goesOn : p.read word = .goesOn p' ↔ p.escaped = false ∧
    ((word = "--" ∧ { p with escaped := true } = p') ∨
    (∃ name value, Word.ofText word = .long name value ∧ p.readLong name value = .ok p') ∨
    (∃ letters, Word.ofText word = .short letters ∧ p.readShort letters = .ok p') ∨
    (∃ o, Word.ofText word = .plain ∧ p.pending = .due o ∧
      { p with pending := .held o word } = p')) := by
  rw [← Word.ofText_eq_escape]
  cases hesc : p.escaped with
  | true => simp [read, hesc]
  | false =>
    cases hword : Word.ofText word with
    | escape => simp [read, hesc, hword]
    | long name value => simp [read, hesc, hword, and_assoc]
    | short letters => simp [read, hesc, hword]
    | plain => cases h : p.pending <;> simp [read, hesc, hword, h]

theorem read_eq_plain : p.read word = .plain ↔
    p.escaped = true ∨ Word.ofText word = .plain ∧ p.pending.isDue = false := by
  cases hesc : p.escaped with
  | true => simp [read, hesc]
  | false =>
    cases hword : Word.ofText word with
    | escape => simp [read, hesc, hword]
    | long name value => simp [read, hesc, hword]
    | short letters => simp [read, hesc, hword]
    | plain => cases h : p.pending <;> simp [read, hesc, hword, h, Pending.isDue]

/-! ## Room for an option -/

/-- An option may stand here: it is neither plain nor the value of another. -/
structure Ready (p : Place) : Prop where
  escaped : p.escaped = false
  notDue : p.pending.isDue = false

theorem checks_of_set (h : p.set s v = .ok p') :
    ∃ p₁, p.settle = .ok p₁ ∧ p'.escaped = p.escaped ∧ p'.pending.isDue = false := by
  obtain ⟨p₁, g, hp₁, -, rfl⟩ := set_eq_ok.mp h
  obtain ⟨g₁, rfl⟩ := eq_of_settle hp₁
  exact ⟨_, hp₁, rfl, rfl⟩

theorem checks_of_await (h : p.await s = .ok p') :
    ∃ p₁, p.settle = .ok p₁ ∧ p'.escaped = p.escaped := by
  obtain ⟨p₁, hp₁, rfl⟩ := await_eq_ok.mp h
  obtain ⟨g₁, rfl⟩ := eq_of_settle hp₁
  exact ⟨_, hp₁, rfl⟩

theorem checks_of_moreVerbose (h : p.moreVerbose = .ok p') :
    ∃ p₁, p.settle = .ok p₁ ∧ p'.escaped = p.escaped ∧ p'.pending.isDue = false := by
  obtain ⟨p₁, hp₁, rfl⟩ := moreVerbose_eq_ok.mp h
  obtain ⟨g₁, rfl⟩ := eq_of_settle hp₁
  exact ⟨_, hp₁, rfl, rfl⟩

/-- An option has what was held before it checked. -/
theorem checks_of_readLong (h : p.readLong name value = .ok p') :
    ∃ p₁, p.settle = .ok p₁ ∧ p'.escaped = p.escaped ∧
      (p'.pending.isDue = true → value = none ∧ (Setting.ofName? name).isSome) := by
  obtain ⟨s, v, -, -, h⟩ | ⟨s, hname, hvalue, h⟩ | ⟨-, -, -, h⟩ := readLong_eq_ok.mp h
  · obtain ⟨p₁, hp₁, hesc, hdue⟩ := checks_of_set h
    exact ⟨p₁, hp₁, hesc, by simp [hdue]⟩
  · obtain ⟨p₁, hp₁, hesc⟩ := checks_of_await h
    exact ⟨p₁, hp₁, hesc, by simp [hname, hvalue]⟩
  · obtain ⟨p₁, hp₁, hesc, hdue⟩ := checks_of_moreVerbose h
    exact ⟨p₁, hp₁, hesc, by simp [hdue]⟩

theorem checks_of_readShort (hne : letters ≠ []) (h : p.readShort letters = .ok p') :
    ∃ p₁, p.settle = .ok p₁ ∧ p'.escaped = p.escaped ∧
      (p'.pending.isDue = true → letters.getLast? = some 'o') := by
  induction letters generalizing p with
  | nil => exact absurd rfl hne
  | cons c rest ih =>
    obtain ⟨-, p₂, hmore, h⟩ | ⟨rfl, rfl, h⟩ | ⟨-, -, h⟩ := readShort_cons_eq_ok.mp h
    · obtain ⟨p₁, hp₁, hesc, hdue⟩ := checks_of_moreVerbose hmore
      cases rest with
      | nil =>
        obtain rfl : p₂ = p' := by simpa [readShort] using h
        exact ⟨p₁, hp₁, hesc, by simp [hdue]⟩
      | cons d rest =>
        obtain ⟨-, -, hesc', hdue'⟩ := ih (by simp) h
        exact ⟨p₁, hp₁, hesc'.trans hesc, by simpa using hdue'⟩
    · obtain ⟨p₁, hp₁, hesc⟩ := checks_of_await h
      exact ⟨p₁, hp₁, hesc, by simp⟩
    · obtain ⟨p₁, hp₁, hesc, hdue⟩ := checks_of_set h
      exact ⟨p₁, hp₁, hesc, by simp [hdue]⟩

theorem escaped_of_read (h : p.read word = .goesOn p') :
    p'.escaped = (p.escaped || word = "--") := by
  obtain ⟨hesc, ⟨rfl, rfl⟩ | ⟨_, _, hlong, h⟩ | ⟨_, hshort, h⟩ | ⟨_, hplain, -, rfl⟩⟩ :=
    read_eq_goesOn.mp h
  · simp
  · obtain ⟨-, -, hesc', -⟩ := checks_of_readLong h
    simp [hesc', hesc, ← Word.ofText_eq_escape, hlong]
  · obtain ⟨-, -, hesc', -⟩ := checks_of_readShort (Word.letters_ne_nil hshort) h
    simp [hesc', hesc, ← Word.ofText_eq_escape, hshort]
  · simp [hesc, ← Word.ofText_eq_escape, hplain]

/-- A word that asks for no value leaves room for an option. -/
theorem ready_of_read (hword : word ≠ "--") (hlast : awaitsValue word = false)
    (h : p.read word = .goesOn p') : p'.Ready := by
  obtain ⟨hesc, ⟨rfl, -⟩ | ⟨name, value, hlong, h⟩ | ⟨letters, hshort, h⟩ | ⟨o, -, -, rfl⟩⟩ :=
    read_eq_goesOn.mp h
  · exact absurd rfl hword
  · obtain ⟨-, -, hesc', hdue⟩ := checks_of_readLong h
    refine ⟨hesc'.trans hesc, Bool.eq_false_iff.mpr fun hp' => ?_⟩
    obtain ⟨rfl, hname⟩ := hdue hp'
    simp_all [awaitsValue]
  · obtain ⟨-, -, hesc', hdue⟩ := checks_of_readShort (Word.letters_ne_nil hshort) h
    refine ⟨hesc'.trans hesc, Bool.eq_false_iff.mpr fun hp' => ?_⟩
    simp [awaitsValue, hshort, hdue hp'] at hlast
  · exact ⟨hesc, rfl⟩

/-- Every word but `--` has what was held before it checked. -/
theorem checks_of_read (hdue : p.pending.isDue = false) (h : p.read word = .goesOn p') :
    (∃ p₁, p.settle = .ok p₁) ∨ p' = { p with escaped := true } := by
  obtain ⟨-, ⟨-, rfl⟩ | ⟨name, value, -, h⟩ | ⟨letters, hshort, h⟩ | ⟨o, -, ho, -⟩⟩ :=
    read_eq_goesOn.mp h
  · exact .inr rfl
  · obtain ⟨p₁, hp₁, -⟩ := checks_of_readLong h
    exact .inl ⟨p₁, hp₁⟩
  · obtain ⟨p₁, hp₁, -⟩ := checks_of_readShort (Word.letters_ne_nil hshort) h
    exact .inl ⟨p₁, hp₁⟩
  · simp [ho, Pending.isDue] at hdue

end Place

end SandboxWatch.CommandLine
