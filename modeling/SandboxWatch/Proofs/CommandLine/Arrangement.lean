import SandboxWatch.Proofs.CommandLine.Additions
import SandboxWatch.Proofs.CommandLine.Environment

/-!
# SandboxWatch.Proofs.CommandLine.Arrangement

Options may stand before or after the command and in any order.

* `moreWord`            — a word that asks for more words once or several times.
* `interpret_moreWords` — how often that is asked counts at one place only.
* `Request`             — the options of a command line, each at most once, with values that can be
  read.
* `added_of_perm`       — wherever they stand, they can be put in one by one.
* `Request.interpret_of_perm` — every arrangement of them leads to the same run.
-/

namespace SandboxWatch.CommandLine

/-- Words before the command, after it, and after the namespace. -/
def arrange (c : Command) (ns : String) (before mid after : List String) : List String :=
  before ++ c.text :: (mid ++ ns :: after)

/-! ## Asking for more words -/

/-- A dash and the letter `v`, once and as many times more as given. -/
def moreWord (k : Nat) : String := "-" ++ String.ofList (List.replicate (k + 1) 'v')

def MoreWords (words : List String) : Prop := ∀ word ∈ words, ∃ k, word = moreWord k

/-- How often words of this form ask for more words, all together. -/
def times (words : List String) : Nat := (words.flatMap String.toList).count 'v'

/-- A place that has been asked for more words so many times and has read nothing else. -/
def Place.counting (page : HelpPage) (n : Nat) : Place :=
  { page, given := { verbose := min n 255 } }

theorem ofText_moreWord (k : Nat) :
    Word.ofText (moreWord k) = .short (List.replicate (k + 1) 'v') := by
  simp [Word.ofText, moreWord, List.replicate_succ]

section Counting

variable {page : HelpPage} {word ns : String} {words words' before mid after : List String}
  {c : Command}

@[simp] theorem times_nil : times [] = 0 := rfl

@[simp] theorem times_append : times (words ++ words') = times words + times words' := by
  simp [times]

@[simp] theorem times_cons_moreWord (k : Nat) :
    times (moreWord k :: words) = k + 1 + times words := by
  simp [times, moreWord]

theorem times_perm (h : words.Perm words') : times words = times words' :=
  (h.flatMap_right _).count_eq 'v'

theorem MoreWords.mono (h : MoreWords words) (hsub : words' ⊆ words) : MoreWords words' :=
  fun word hword => h word (hsub hword)

theorem MoreWords.eq_nil (h : MoreWords words') (hsub : words' ⊆ words)
    (hnone : ∀ k, moreWord k ∉ words) : words' = [] := by
  refine List.eq_nil_iff_forall_not_mem.mpr fun word hword => ?_
  obtain ⟨k, rfl⟩ := h word hword
  exact hnone k (hsub hword)

theorem mem_arrange : word ∈ arrange c ns before mid after ↔
    word = c.text ∨ word = ns ∨ word ∈ before ++ (mid ++ after) := by
  grind [arrange]

theorem Place.readShort_replicate (n k : Nat) :
    (counting page n).readShort (List.replicate k 'v') = .ok (counting page (n + k)) := by
  induction k generalizing n with
  | zero => rfl
  | succ k ih =>
    have hgiven : (counting page n).given.moreVerbose = (counting page (n + 1)).given := by
      simp [counting, Given.moreVerbose]
      omega
    have hmore : (counting page n).moreVerbose = .ok (counting page (n + 1)) :=
      moreVerbose_eq_ok.mpr ⟨_, settle_of_none rfl, by rw [hgiven]; rfl⟩
    simp [List.replicate_succ, readShort, hmore, ih, Nat.add_comm, Nat.add_left_comm]

theorem Place.read_moreWord (n k : Nat) :
    (counting page n).read (moreWord k) = .goesOn (counting page (n + (k + 1))) :=
  read_eq_goesOn.mpr
    ⟨rfl, .inr (.inr (.inl ⟨_, ofText_moreWord k, readShort_replicate n (k + 1)⟩))⟩

/-- Before the command and after it the words are counted alike. -/
theorem Steps.counting (cursorAt : Place → Cursor)
    (hstep : ∀ p word p', p.read word = .goesOn p' → Step (cursorAt p) word (cursorAt p'))
    (hwords : MoreWords words) (n : Nat) :
    Steps (cursorAt (.counting page n)) words (cursorAt (.counting page (n + times words))) := by
  induction words generalizing n with
  | nil => exact .refl
  | cons word rest ih =>
    obtain ⟨k, rfl⟩ := hwords word (by simp)
    have hrest := ih (hwords.mono (List.subset_cons_self _ _)) (n + (k + 1))
    refine .cons (hstep _ _ _ (Place.read_moreWord n k)) ?_
    simpa [Nat.add_assoc] using hrest

/-- Words that ask for more words count after the command, or before it if there are none after. -/
theorem interpret_moreWords (hns : ns.toList.head? ≠ some '-')
    (hwords : MoreWords (before ++ (mid ++ after))) :
    interpret (arrange c ns before mid after) = .run
      { command := c
        ns
        verbose := if times (mid ++ after) = 0 then min (times before) 255
          else min (times (mid ++ after)) 255 } := by
  have hbefore : MoreWords before := hwords.mono (by simp)
  have hmid : MoreWords mid := hwords.mono (by simp)
  have hafter : MoreWords after := hwords.mono (by simp)
  generalize hb : times before = b
  generalize hm : times mid = m
  generalize ha : times after = a
  have houter : Steps .start before (.overview (.counting .overview b)) := by
    have hsteps : Steps .start before (.overview (.counting .overview (0 + _))) :=
      Steps.counting .overview (fun _ _ _ => .before) hbefore 0
    rwa [hb, Nat.zero_add] at hsteps
  have hinner (ns' : Option String) (words : List String) (n : Nat) (hwords : MoreWords words) :
      Steps (.command (.counting .overview b) c (.counting (.command c) n) ns') words
        (.command (.counting .overview b) c
          (.counting (.command c) (n + times words)) ns') :=
    Steps.counting (.command _ c · ns') (fun _ _ _ => .after) hwords n
  have hcommand : Step (.overview (.counting .overview b)) c.text
      (.command (.counting .overview b) c (.counting (.command c) 0) none) :=
    .command ⟨rfl, rfl⟩ (Command.ofText?_eq_some.mpr rfl)
  have hsandbox : Step (.command (.counting .overview b) c (.counting (.command c) m) none) ns
      (.command (.counting .overview b) c (.counting (.command c) m) (some ns)) :=
    .sandbox (Place.read_eq_plain.mpr (.inr ⟨Word.ofText_eq_plain hns, rfl⟩))
      (Place.settle_of_none rfl)
  have hlast := (hinner (some ns) after m hafter).read []
  rw [List.append_nil, ha] at hlast
  calc interpret (arrange c ns before mid after)
      = Cursor.read (.overview (.counting .overview b)) (c.text :: (mid ++ ns :: after)) :=
        houter.read _
    _ = _ := hcommand.read _
    _ = _ := (hinner none mid 0 hmid).read _
    _ = _ := by rw [Nat.zero_add, hm, hsandbox.read, hlast]
    _ = _ := by
      simp [Cursor.read, readCommand, finish, Place.settle, Place.counting, Given.orElse, hm, ha]

end Counting

/-! ## Requests -/

/-- A limit with the text that gives it. -/
structure Timeout where
  text : String
  seconds : UInt64
  spelled : Config.Spells text seconds

/-- The options of a command line. -/
structure Request where
  output : Option OutputFormat := none
  memberLabel : Option String := none
  serviceLabel : Option String := none
  syncTimeout : Option Timeout := none
  /-- The words that ask for more words, each by the number of its letters less one. -/
  verbosity : List Nat := []

namespace Request

def value (r : Request) : Setting → Option String
  | .output => r.output.map OutputFormat.text
  | .memberLabel => r.memberLabel
  | .serviceLabel => r.serviceLabel
  | .syncTimeout => r.syncTimeout.map Timeout.text

def settingWords (settings : List (Setting × String)) : List String :=
  settings.map fun setting => setting.1.word setting.2

def words (r : Request) : List String := settingWords (chosen r.value) ++ r.verbosity.map moreWord

/-- What is asked for with a command and a namespace. -/
def invocation (r : Request) (c : Command) (ns : String) : Invocation where
  output := r.output.getD .human
  memberLabel := r.memberLabel
  serviceLabel := r.serviceLabel
  syncTimeout := r.syncTimeout.map Timeout.seconds
  verbose := min (times (r.verbosity.map moreWord)) 255
  command := c
  ns

end Request

/-! ## Taking a word out -/

variable {settings : List (Setting × String)} {word ns : String} {c : Command}
  {words rest before mid after : List String}

/-- The word is an option that needs no other word. -/
structure Closed (word : String) : Prop where
  ne_escape : word ≠ "--"
  awaitsNone : awaitsValue word = false

theorem closed_word (s : Setting) (v : String) : Closed (s.word v) :=
  ⟨s.word_ne_escape v, awaitsValue_word s v⟩

theorem closed_plain (h : Word.ofText word = .plain) : Closed word where
  ne_escape := fun heq => by simp [Word.ofText_eq_escape.mpr heq] at h
  awaitsNone := by simp [awaitsValue, h]

theorem closed_moreWord (k : Nat) : Closed (moreWord k) where
  ne_escape := fun heq => by simpa [Word.ofText_eq_escape.mpr heq] using ofText_moreWord k
  awaitsNone := by simp [awaitsValue, ofText_moreWord, List.getLast?_replicate]

theorem between_of_closed (h : ∀ word ∈ words, Closed word) : Between words where
  unescaped := fun hmem => (h _ hmem).ne_escape rfl
  last := fun word hword => (h word (List.mem_of_getLast? hword)).awaitsNone

theorem closed_of_mem_arrange (hns : ns.toList.head? ≠ some '-')
    (h : ∀ word ∈ before ++ (mid ++ after), Closed word)
    (hword : word ∈ arrange c ns before mid after) : Closed word := by
  obtain rfl | rfl | hword := mem_arrange.mp hword
  · exact closed_plain c.ofText_text
  · exact closed_plain (Word.ofText_eq_plain hns)
  · exact h word hword

/-- Wherever a word stands among the options, it may be taken out of the command line. -/
theorem exists_arrange_without (c : Command) (ns : String) (h : word ∈ before ++ (mid ++ after)) :
    ∃ before' mid' after' left right, arrange c ns before mid after = left ++ word :: right ∧
      arrange c ns before' mid' after' = left ++ right ∧
      (before ++ (mid ++ after)).Perm (word :: (before' ++ (mid' ++ after'))) ∧
      before' ⊆ before ∧ mid' ++ after' ⊆ mid ++ after := by
  rw [List.mem_append, List.mem_append] at h
  obtain h | h | h := h
  · obtain ⟨a, b, rfl⟩ := List.append_of_mem h
    exact ⟨a ++ b, mid, after, a, b ++ c.text :: (mid ++ ns :: after), by simp [arrange],
      by simp [arrange], by simp, by simp, by simp⟩
  · obtain ⟨a, b, rfl⟩ := List.append_of_mem h
    refine ⟨before, a ++ b, after, before ++ c.text :: a, b ++ ns :: after, by simp [arrange],
      by simp [arrange], ?_, by simp, by simp⟩
    simpa using @List.perm_middle _ word (before ++ a) (b ++ after)
  · obtain ⟨a, b, rfl⟩ := List.append_of_mem h
    refine ⟨before, mid, a ++ b, before ++ c.text :: (mid ++ ns :: a), b, by simp [arrange],
      by simp [arrange], ?_, by simp, by grind⟩
    simpa using @List.perm_middle _ word (before ++ (mid ++ a)) b

/-- Whatever their order, the settings have been put into a command line that has the other words
only. -/
theorem added_of_perm (hns : ns.toList.head? ≠ some '-')
    (hperm : (before ++ (mid ++ after)).Perm (Request.settingWords settings ++ rest))
    (hrest : MoreWords rest) : ∃ before' mid' after', (before' ++ (mid' ++ after')).Perm rest ∧
      before' ⊆ before ∧ mid' ++ after' ⊆ mid ++ after ∧
      Added settings (arrange c ns before' mid' after') (arrange c ns before mid after) := by
  induction settings generalizing before mid after with
  | nil => exact ⟨before, mid, after, hperm, by simp, by simp, .nil⟩
  | cons setting settings ih =>
    obtain ⟨s, v⟩ := setting
    have hclosed : ∀ word ∈ before ++ (mid ++ after), Closed word := by
      intro word hword
      rw [hperm.mem_iff, List.mem_append] at hword
      obtain hword | hword := hword
      · obtain ⟨⟨o, x⟩, -, rfl⟩ := List.mem_map.mp hword
        exact closed_word o x
      · obtain ⟨k, rfl⟩ := hrest word hword
        exact closed_moreWord k
    have hmem : s.word v ∈ before ++ (mid ++ after) := by
      simp [hperm.mem_iff, Request.settingWords]
    obtain ⟨before₁, mid₁, after₁, left, right, hline₁, hwithout, hperm₁, hbefore, hafter⟩ :=
      exists_arrange_without c ns hmem
    obtain ⟨before₂, mid₂, after₂, hperm₂, hbefore₂, hafter₂, hadded⟩ :=
      ih (List.Perm.cons_inv (hperm₁.symm.trans hperm))
    refine ⟨before₂, mid₂, after₂, hperm₂, List.Subset.trans hbefore₂ hbefore,
      List.Subset.trans hafter₂ hafter, ?_⟩
    rw [hwithout] at hadded
    have hleft : ∀ word ∈ left, Closed word := fun word hword =>
      closed_of_mem_arrange hns hclosed (by rw [hline₁]; simp [hword])
    rw [hline₁]
    exact .cons hadded (between_of_closed hleft)

/-! ## Every arrangement -/

theorem OutputFormat.ofText?_text (f : OutputFormat) : OutputFormat.ofText? f.text = some f := by
  cases f <;> rfl

theorem Timeout.seconds?_text (t : Timeout) : Config.seconds? t.text = some t.seconds :=
  Config.seconds?_eq_some_iff.mpr t.spelled

namespace Request

variable {r : Request}

/-- Every value of a request can be read. -/
theorem set_value {s : Setting} {v : String} (h : r.value s = some v) :
    ∃ g, ({} : Given).set s v = .ok g := by
  refine Given.exists_set_empty.mpr ⟨?_, ?_⟩ <;> rintro rfl
  · obtain ⟨f, -, rfl⟩ := Option.map_eq_some_iff.mp h
    exact ⟨f, OutputFormat.ofText?_text f⟩
  · obtain ⟨t, -, rfl⟩ := Option.map_eq_some_iff.mp h
    exact ⟨t.seconds, t.seconds?_text⟩

theorem without_of_moreWords (s : Setting) (hns : ns.toList.head? ≠ some '-')
    (hwords : MoreWords (before ++ (mid ++ after))) :
    Without s (arrange c ns before mid after) := by
  refine Without.of_forall fun word hword => ?_
  obtain rfl | rfl | hword := mem_arrange.mp hword
  · simp [Setting.named, c.ofText_text]
  · simp [Setting.named, Word.ofText_eq_plain hns]
  · obtain ⟨k, rfl⟩ := hwords word hword
    simp [Setting.named, ofText_moreWord]

/-- Every arrangement of the words of a request leads to the same run. -/
theorem interpret_of_perm (c : Command) (hns : ns.toList.head? ≠ some '-')
    (hperm : (before ++ (mid ++ after)).Perm r.words)
    (hside : (∀ k, moreWord k ∉ before) ∨ ∀ k, moreWord k ∉ mid ++ after) :
    interpret (arrange c ns before mid after) = .run (r.invocation c ns) := by
  have hverbosity : MoreWords (r.verbosity.map moreWord) := by
    intro word hword
    obtain ⟨k, -, rfl⟩ := List.mem_map.mp hword
    exact ⟨k, rfl⟩
  obtain ⟨b, m, a, hrest, hb, hma, hadded⟩ := added_of_perm (c := c) hns hperm hverbosity
  have hmore : MoreWords (b ++ (m ++ a)) := hverbosity.mono hrest.subset
  -- the words of one side are all that is counted
  have hcount : times b + times (m ++ a) =
      times (r.verbosity.map moreWord) := by
    have htimes := times_perm hrest
    simpa using htimes
  have hempty : b = [] ∨ m ++ a = [] := hside.imp
    ((hmore.mono (List.subset_append_left _ _)).eq_nil hb)
    ((hmore.mono (List.subset_append_right _ _)).eq_nil hma)
  have hbare : interpret (arrange c ns b m a) = .run
      { verbose := min (times (r.verbosity.map moreWord)) 255, command := c, ns } := by
    rw [interpret_moreWords hns hmore, ← hcount]
    obtain h | h := hempty <;> simp [h]
    omega
  obtain ⟨i, hrun, hgains⟩ := hadded.run (nodup_chosen _) (fun s v h => set_value (mem_chosen.mp h))
    (fun s _ => without_of_moreWords s hns hmore) hbare
  rw [hrun, hgains.eq]
  cases ho : r.output <;> cases ht : r.syncTimeout <;>
    simp [invocation, value, ho, ht, OutputFormat.ofText?_text, Timeout.seconds?_text]

def scattered : Request where
  output := some .json
  memberLabel := some "a=b"
  syncTimeout := some
    { text := "+5"
      seconds := 5
      spelled := Config.seconds?_eq_some_iff.mp (by decide +kernel) }
  verbosity := [0, 1]

/-- Options before the command, after it, and after the namespace. -/
theorem interpret_of_perm_scattered :
    interpret ["--member-label=a=b", "watch", "-vv", "--output=json", "ns1",
      "--sync-timeout-secs=+5", "-v"] = .run
        { output := .json
          memberLabel := some "a=b"
          syncTimeout := some 5
          verbose := 3
          command := .watch
          ns := "ns1" } := by
  have hperm : (["--member-label=a=b"] ++ (["-vv", "--output=json"] ++
      ["--sync-timeout-secs=+5", "-v"])).Perm scattered.words := by decide +kernel
  have hside (k : Nat) : moreWord k ∉ ["--member-label=a=b"] := by
    intro hmem
    have hlabel : Word.ofText "--member-label=a=b" = .long "member-label" (some "a=b") := by
      decide +kernel
    have hword := ofText_moreWord k
    rw [List.mem_singleton.mp hmem, hlabel] at hword
    cases hword
  exact interpret_of_perm .watch (by decide) hperm (.inl hside)

end Request

end SandboxWatch.CommandLine
