import SandboxWatch.CommandLine.Invocation

/-!
# SandboxWatch.Proofs.CommandLine.Options

What the words of a command line are about, and how a value joins the options given so far.

* `Setting.word`      — the option and its value in one word.
* `Setting.named`     — the words that are about a setting; `Without` is a command line with none.
* `Between`           — places in a command line at which an option may stand.
* `Given.set_comm`    — the values of two settings may come in either order.
* `Given.orElse_set`  — a value may be given before or after the command.
-/

namespace SandboxWatch.CommandLine

/-! ## Words -/

namespace Setting

def name : Setting → String
  | .output => "output"
  | .memberLabel => "member-label"
  | .serviceLabel => "service-label"
  | .syncTimeout => "sync-timeout-secs"

/-- The option and its value in one word. -/
def word (s : Setting) (value : String) : String := "--" ++ s.name ++ "=" ++ value

/-- The word gives the setting a value or asks for the next word to be its value. -/
def named (s : Setting) (word : String) : Bool :=
  match Word.ofText word with
  | .long name _ => ofName? name = some s
  | .short letters => s = .output ∧ 'o' ∈ letters
  | _ => false

@[simp] theorem ofName?_name (s : Setting) : ofName? s.name = some s := by cases s <;> rfl

end Setting

theorem cutAtEquals_append {name : List Char} (h : '=' ∉ name) (value : List Char) :
    cutAtEquals (name ++ '=' :: value) = (name, some value) := by
  induction name with
  | nil => rfl
  | cons c rest ih =>
    have hc : c ≠ '=' := by grind
    have hrest : '=' ∉ rest := by grind
    simp [cutAtEquals, ih hrest]

@[simp] theorem Word.ofText_word (s : Setting) (value : String) :
    Word.ofText (s.word value) = .long s.name (some value) := by
  have hname : '=' ∉ s.name.toList := by cases s <;> decide
  have hword : (s.word value).toList = '-' :: '-' :: (s.name.toList ++ '=' :: value.toList) := by
    simp [Setting.word]
  simp [Word.ofText, hword, cutAtEquals_append hname]

theorem Word.ofText_eq_escape {word : String} : Word.ofText word = .escape ↔ word = "--" := by
  constructor
  · intro h
    have htext : word.toList = ['-', '-'] := by
      unfold Word.ofText at h
      split at h <;> simp_all
    exact String.toList_inj.mp htext
  · rintro rfl
    rfl

/-- A dash alone has no letters after it and is no option. -/
theorem Word.letters_ne_nil {word : String} {letters : List Char}
    (h : Word.ofText word = .short letters) : letters ≠ [] := by
  rintro rfl
  unfold Word.ofText at h
  split at h <;> simp_all

theorem Word.ofText_eq_plain {word : String} (h : word.toList.head? ≠ some '-') :
    Word.ofText word = .plain := by
  unfold Word.ofText
  split <;> simp_all

/-- The next word is the value of this one. -/
def awaitsValue (word : String) : Bool :=
  match Word.ofText word with
  | .long name none => (Setting.ofName? name).isSome
  | .short letters => letters.getLast? = some 'o'
  | _ => false

/-- No option of the command line is about the setting. -/
def Without (s : Setting) (words : List String) : Prop :=
  ∀ word ∈ words.takeWhile (· ≠ "--"), s.named word = false

instance (s : Setting) (words : List String) : Decidable (Without s words) :=
  inferInstanceAs (Decidable (∀ _ ∈ _, _))

/-- After these words an option may stand: they have no `--`, and the last does not ask for a
value. -/
structure Between (words : List String) : Prop where
  unescaped : "--" ∉ words
  last : ∀ word ∈ words.getLast?, awaitsValue word = false

instance (words : List String) : Decidable (Between words) :=
  decidable_of_iff ("--" ∉ words ∧ ∀ word ∈ words.getLast?, awaitsValue word = false)
    ⟨fun h => ⟨h.1, h.2⟩, fun h => ⟨h.1, h.2⟩⟩

section Words

variable {s : Setting} {word : String} {rest words before after : List String}

theorem Setting.named_escape (s : Setting) : s.named "--" = false := rfl

@[simp] theorem Setting.named_word (s o : Setting) (value : String) :
    s.named (o.word value) = decide (o = s) := by
  simp [Setting.named]

theorem Setting.word_ne_escape (s : Setting) (value : String) : s.word value ≠ "--" := by
  intro h
  have := Word.ofText_word s value
  rw [Word.ofText_eq_escape.mpr h] at this
  cases this

theorem awaitsValue_word (s : Setting) (value : String) : awaitsValue (s.word value) = false := by
  simp [awaitsValue]

theorem without_cons :
    Without s (word :: rest) ↔ word = "--" ∨ s.named word = false ∧ Without s rest := by
  by_cases h : word = "--" <;> simp [Without, h]

theorem Without.head (h : Without s (word :: rest)) : s.named word = false := by
  obtain rfl | h := without_cons.mp h
  · exact s.named_escape
  · exact h.1

theorem Without.tail (h : Without s (word :: rest)) (hword : word ≠ "--") : Without s rest := by
  obtain rfl | h := without_cons.mp h
  · exact absurd rfl hword
  · exact h.2

theorem Between.tail (h : Between (word :: rest)) : Between rest where
  unescaped := fun hmem => h.unescaped (by simp [hmem])
  last w hw := h.last w (by cases rest <;> simp_all)

/-- A word that needs no other may be put before a place for an option. -/
theorem Between.insert (hafter : Between (before ++ after)) (s : Setting) (value : String) :
    Between (before ++ s.word value :: after) where
  unescaped := by
    have hword := s.word_ne_escape value
    have hafter := hafter.unescaped
    grind
  last := by
    intro word hword
    cases after with
    | nil =>
      obtain rfl : s.word value = word := by simpa using hword
      exact awaitsValue_word s value
    | cons w rest => exact hafter.last word (by simpa [List.getLast?_append] using hword)

/-- A word before a place for an option may be left out if there is a place in its stead. -/
theorem Between.erase (hbefore : Between before) (h : Between (before ++ word :: after)) :
    Between (before ++ after) where
  unescaped := by
    have h := h.unescaped
    grind
  last := by
    intro w hw
    cases after with
    | nil => exact hbefore.last w (by simpa using hw)
    | cons _ _ => exact h.last w (by simpa [List.getLast?_append] using hw)

theorem Without.of_forall (h : ∀ word ∈ words, s.named word = false) : Without s words :=
  fun word hword => h word (List.takeWhile_subset _ hword)

theorem without_append (hbefore : "--" ∉ before) :
    Without s (before ++ after) ↔ Without s before ∧ Without s after := by
  induction before with
  | nil => simp [Without]
  | cons w rest ih =>
    have hw : w ≠ "--" := by grind
    have hrest : "--" ∉ rest := by grind
    simp [without_cons, hw, ih hrest, and_assoc]

end Words

/-! ## Values -/

namespace Given

variable {s o : Setting} {v x : String} {g g' g₁ g₂ inner inner' outer outer' : Given}

@[simp] theorem set_output_eq_ok : g.set .output v = .ok g' ↔
    g.output = none ∧ ∃ f, OutputFormat.ofText? v = some f ∧ g' = { g with output := some f } := by
  cases hg : g.output <;> cases hv : OutputFormat.ofText? v <;> simp [set, hg, hv, eq_comm]

@[simp] theorem set_memberLabel_eq_ok : g.set .memberLabel v = .ok g' ↔
    g.memberLabel = none ∧ g' = { g with memberLabel := some v } := by
  cases hg : g.memberLabel <;> simp [set, hg, eq_comm]

@[simp] theorem set_serviceLabel_eq_ok : g.set .serviceLabel v = .ok g' ↔
    g.serviceLabel = none ∧ g' = { g with serviceLabel := some v } := by
  cases hg : g.serviceLabel <;> simp [set, hg, eq_comm]

@[simp] theorem set_syncTimeout_eq_ok : g.set .syncTimeout v = .ok g' ↔
    g.syncTimeout = none ∧
      ∃ n, Config.seconds? v = some n ∧ g' = { g with syncTimeout := some n } := by
  cases hg : g.syncTimeout <;> cases hv : Config.seconds? v <;> simp [set, hg, hv, eq_comm]

/-- Two settings do not touch each other. -/
theorem set_comm (hne : o ≠ s) (h₁ : g.set s v = .ok g₁) (h₂ : g.set o x = .ok g₂) :
    ∃ g₃, g₂.set s v = .ok g₃ ∧ g₁.set o x = .ok g₃ := by
  cases s <;> cases o <;> grind [set]

theorem set_comm_error {e : UsageError} (hne : o ≠ s) (h₁ : g.set s v = .ok g₁)
    (h₂ : g.set o x = .error e) : g₁.set o x = .error e := by
  cases s <;> cases o <;> grind [set]

/-- The value of an output or a limit has to be readable, a label may be any text. -/
theorem exists_set_empty : (∃ g, ({} : Given).set s v = .ok g) ↔
    (s = .output → ∃ f, OutputFormat.ofText? v = some f) ∧
      (s = .syncTimeout → ∃ n, Config.seconds? v = some n) := by
  cases s <;> simp [@exists_comm Given]

/-- Whether a value can be read does not depend on what else is given. -/
theorem set_empty (h : g.set s v = .ok g') : ∃ g₀, ({} : Given).set s v = .ok g₀ := by
  refine exists_set_empty.mpr ⟨?_, ?_⟩ <;> rintro rfl
  · obtain ⟨-, f, hf, -⟩ := set_output_eq_ok.mp h
    exact ⟨f, hf⟩
  · obtain ⟨-, n, hn, -⟩ := set_syncTimeout_eq_ok.mp h
    exact ⟨n, hn⟩

theorem set_moreVerbose (h : g.set s v = .ok g') :
    g.moreVerbose.set s v = .ok g'.moreVerbose := by
  cases s
  case output | syncTimeout =>
    obtain ⟨hnone, x, hx, rfl⟩ := by simpa using h
    simp [moreVerbose, hnone, hx]
  case memberLabel | serviceLabel =>
    obtain ⟨hnone, rfl⟩ := by simpa using h
    simp [moreVerbose, hnone]

/-- A setting that neither place has may be given at either. -/
theorem orElse_set (hi : inner.set s v = .ok inner') (ho : outer.set s v = .ok outer') :
    (inner.orElse outer).set s v = .ok (inner'.orElse outer) ∧
      inner.orElse outer' = inner'.orElse outer := by
  cases s
  case output | syncTimeout =>
    obtain ⟨hinner, x, hx, rfl⟩ := by simpa using hi
    obtain ⟨houter, y, hy, rfl⟩ := by simpa using ho
    have hxy : x = y := by simpa [hx] using hy
    simp [orElse, hinner, houter, hx, hxy]
  case memberLabel | serviceLabel =>
    obtain ⟨hinner, rfl⟩ := by simpa using hi
    obtain ⟨houter, rfl⟩ := by simpa using ho
    simp [orElse, hinner, houter]

end Given
end SandboxWatch.CommandLine
