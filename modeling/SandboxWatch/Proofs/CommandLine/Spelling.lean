import SandboxWatch.Proofs.CommandLine.Additions
import SandboxWatch.Proofs.CommandLine.Environment

/-!
# SandboxWatch.Proofs.CommandLine.Spelling

The labels and the limit can be given as options or as variables, and it comes to the same.

* `Flags`         — the options; `Flags.Bare` is a command line without them, and `Flags.Spelled`
  relates two environments of which the second has the same values in its variables.
* `Flags.FieldsOf` — where each field of a configuration comes from.
* `Flags.run_of_added`, `Flags.rejected_of_added` — what becomes of a command line that gets them.
* `Flags.config_eq` — the two spellings lead to one configuration.
* `Flags.alike_of_added` — all of this for every command line, wherever the options stand.
-/

namespace SandboxWatch.CommandLine

/-- The options that a variable can stand for, each with its text. -/
structure Flags where
  memberLabel : Option String := none
  serviceLabel : Option String := none
  /-- The text may be no number of seconds. -/
  syncTimeout : Option String := none

namespace Flags

def value (f : Flags) : Setting → Option String
  | .output => none
  | .memberLabel => f.memberLabel
  | .serviceLabel => f.serviceLabel
  | .syncTimeout => f.syncTimeout

/-- None of these options is in the command line. -/
def Bare (words : List String) : Prop := ∀ s, s ≠ .output → Without s words

/-- The limit, if one is given, is a number of seconds. -/
def Readable (f : Flags) : Prop := ∀ t ∈ f.syncTimeout, ∃ n, Config.Spells t n

/-- The variables of the second environment have the values of the options; those that no option
stands for are as in the first. -/
structure Spelled (f : Flags) (env env' : Environment) : Prop where
  memberLabel : env'["BERTH_MEMBER_LABEL"]? = f.memberLabel.or env["BERTH_MEMBER_LABEL"]?
  serviceLabel : env'["BERTH_SERVICE_LABEL"]? = f.serviceLabel.or env["BERTH_SERVICE_LABEL"]?
  syncTimeout : env'["BERTH_SYNC_TIMEOUT_SECS"]? = f.syncTimeout.or env["BERTH_SYNC_TIMEOUT_SECS"]?

/-- Each field is what its option gives, or without the option what the environment alone gives. -/
structure FieldsOf (f : Flags) (env : Environment) (cfg : Config) : Prop where
  memberLabel : match f.memberLabel with
    | some m => cfg.memberLabel = m
    | none => Config.LabelIs env "BERTH_MEMBER_LABEL" "blimp.customerPod" cfg.memberLabel
  serviceLabel : match f.serviceLabel with
    | some s => cfg.serviceLabel = s
    | none => Config.LabelIs env "BERTH_SERVICE_LABEL" "blimp.service" cfg.serviceLabel
  syncTimeout : match f.syncTimeout with
    | some t => ∃ n, Config.Spells t n ∧ cfg.syncTimeout = some (.ofSeconds n)
    | none => Config.TimeoutIs env cfg.syncTimeout

/-- The options put into a command line, and an environment whose variables have the same values: what
becomes of the one and of the other. -/
structure Alike (f : Flags) (words line : List String) (env env' : Environment) : Prop where
  accepted : (∃ i, interpret line = .run i) ↔ (∃ j, interpret words = .run j) ∧ f.Readable
  rejected : (∃ j, interpret words = .run j) → ∀ t ∈ f.syncTimeout,
    ((∃ e, interpret line = .rejected e) ↔ (Config.ofEnvironment env').syncTimeout = none)
  config : ∀ other i j, interpret line = .run i → interpret other = .run j → Bare other →
    i.config env = j.config env'
  fields : ∀ i, interpret line = .run i → f.FieldsOf env (i.config env)

variable {f : Flags} {words line : List String} {i j : Invocation} {env env' : Environment}

/-! ## Command lines -/

/-- The run has the values of the options. -/
structure Has (f : Flags) (i : Invocation) : Prop where
  memberLabel : i.memberLabel = f.memberLabel
  serviceLabel : i.serviceLabel = f.serviceLabel
  syncTimeout : i.syncTimeout = f.syncTimeout.bind Config.seconds?

/-- A run without these options has none of their values. -/
theorem Bare.run (hwords : Bare words) (hrun : interpret words = .run j) : Has {} j := by
  have hzero : Config.seconds? "0" = some 0 := by decide +kernel
  have hmember : ({} : Given).set .memberLabel "" = .ok { memberLabel := some "" } := rfl
  have hservice : ({} : Given).set .serviceLabel "" = .ok { serviceLabel := some "" } := rfl
  have htimeout : ({} : Given).set .syncTimeout "0" = .ok { syncTimeout := some 0 } :=
    Given.set_syncTimeout_eq_ok.mpr ⟨rfl, 0, hzero, rfl⟩
  refine ⟨?_, ?_, ?_⟩
  · obtain ⟨_, hgains⟩ := gains_of_without hmember hrun (hwords .memberLabel (by decide))
    cases hgains with | memberLabel h => exact h
  · obtain ⟨_, hgains⟩ := gains_of_without hservice hrun (hwords .serviceLabel (by decide))
    cases hgains with | serviceLabel h => exact h
  · obtain ⟨_, hgains⟩ := gains_of_without htimeout hrun (hwords .syncTimeout (by decide))
    cases hgains with | syncTimeout h => exact h

theorem set_of_readable (hf : f.Readable) {s : Setting} {v : String} (h : f.value s = some v) :
    ∃ g, ({} : Given).set s v = .ok g := by
  refine Given.exists_set_empty.mpr ⟨?_, ?_⟩ <;> rintro rfl
  · cases h
  · obtain ⟨n, hn⟩ := hf v h
    exact ⟨n, Config.seconds?_eq_some_iff.mpr hn⟩

theorem ne_output_of_mem {s : Setting} (h : s ∈ (chosen f.value).map Prod.fst) : s ≠ .output := by
  obtain ⟨⟨s, v⟩, hmem, rfl⟩ := List.mem_map.mp h
  rintro rfl
  cases mem_chosen.mp hmem

/-- With options that can be read a command line leads to the run that has their values. -/
theorem run_of_added (hf : f.Readable) (hadded : Added (chosen f.value) words line)
    (hwords : Bare words) (hrun : interpret words = .run j) :
    interpret line = .run { j with
      memberLabel := f.memberLabel
      serviceLabel := f.serviceLabel
      syncTimeout := f.syncTimeout.bind Config.seconds? } := by
  obtain ⟨i, hi, hgains⟩ := hadded.run (nodup_chosen _)
    (fun s v h => set_of_readable hf (mem_chosen.mp h))
    (fun s hs => hwords s (ne_output_of_mem hs)) hrun
  obtain ⟨hm, hs, ht⟩ := hwords.run hrun
  rw [hi, hgains.eq]
  simp [value, hm, hs, ht]

/-- With a limit that cannot be read it is rejected, whatever else is given. -/
theorem rejected_of_added (hf : ¬ f.Readable) (hadded : Added (chosen f.value) words line)
    (hwords : Bare words) (hrun : interpret words = .run j) :
    ∃ e, interpret line = .rejected e := by
  obtain ⟨t, ht, hn⟩ : ∃ t, f.syncTimeout = some t ∧ ∀ n, ¬ Config.Spells t n := by
    simpa [Readable] using hf
  -- the limit has been put in last, into a command line that leads to a run
  have hlast : chosen f.value =
      (.syncTimeout, t) :: chosen { f with syncTimeout := none }.value := by
    cases f
    cases ht
    rfl
  rw [hlast] at hadded
  cases hadded with
  | cons hrest hbefore =>
    have hrun' := run_of_added (by simp [Readable]) hrest hwords hrun
    refine interpret_insert_unreadable (fun g g' hset => ?_) hrun' hbefore
    obtain ⟨-, n, hseconds, -⟩ := Given.set_syncTimeout_eq_ok.mp hset
    exact hn n (Config.seconds?_eq_some_iff.mp hseconds)

/-! ## Configurations -/

theorem nonempty?_of_or {name : String} {value : Option String} (hvalue : value ≠ some "")
    (h : env'[name]? = value.or env[name]?) :
    Environment.nonempty? env' name = value.or (Environment.nonempty? env name) := by
  cases value with
  | none => simp [Environment.nonempty?, h]
  | some v =>
    have hv : v ≠ "" := fun hv => hvalue (by rw [hv])
    simp [Environment.nonempty?, h, hv]

theorem Spelled.syncTimeout_eq (h : f.Spelled env env') : (Config.ofEnvironment env').syncTimeout =
    match f.syncTimeout with
    | some t => (Config.seconds? t).map .ofSeconds
    | none => (Config.ofEnvironment env).syncTimeout := by
  cases ht : f.syncTimeout <;> simp [Config.ofEnvironment, h.syncTimeout, ht]

/-- The variable means no limit exactly if its text is no number of seconds. -/
theorem Spelled.syncTimeout_eq_none (h : f.Spelled env env') {t : String}
    (ht : f.syncTimeout = some t) :
    (Config.ofEnvironment env').syncTimeout = none ↔ ¬ f.Readable := by
  simp [h.syncTimeout_eq, Readable, ht, Config.seconds?_eq_none_iff]

/-- A run with the options and a run without them, with the values in the variables. -/
theorem config_eq (hm : f.memberLabel ≠ some "") (hs : f.serviceLabel ≠ some "") (hf : f.Readable)
    (hspelled : f.Spelled env env') (hi : f.Has i) (hj : Has {} j) :
    i.config env = j.config env' := by
  have hmember := nonempty?_of_or hm hspelled.memberLabel
  have hservice := nonempty?_of_or hs hspelled.serviceLabel
  have htimeout := hspelled.syncTimeout_eq
  simp only [Invocation.config, Config.mk.injEq]
  refine ⟨?_, ?_, ?_⟩
  · cases hfm : f.memberLabel <;>
      simp [hi.memberLabel, hj.memberLabel, Config.ofEnvironment, hmember, hfm]
  · cases hfs : f.serviceLabel <;>
      simp [hi.serviceLabel, hj.serviceLabel, Config.ofEnvironment, hservice, hfs]
  · rw [htimeout, hi.syncTimeout, hj.syncTimeout]
    cases hft : f.syncTimeout with
    | none => simp
    | some t =>
      obtain ⟨n, hn⟩ := hf t hft
      simp [Config.seconds?_eq_some_iff.mpr hn]

theorem fieldsOf_config (hf : f.Readable) (hi : f.Has i) : f.FieldsOf env (i.config env) where
  memberLabel := by
    cases hm : f.memberLabel with
    | none =>
      simpa [Invocation.config, hi.memberLabel, hm] using Config.memberLabel_ofEnvironment env
    | some m => simp [Invocation.config, hi.memberLabel, hm]
  serviceLabel := by
    cases hs : f.serviceLabel with
    | none =>
      simpa [Invocation.config, hi.serviceLabel, hs] using Config.serviceLabel_ofEnvironment env
    | some s => simp [Invocation.config, hi.serviceLabel, hs]
  syncTimeout := by
    cases ht : f.syncTimeout with
    | none =>
      simpa [Invocation.config, hi.syncTimeout, ht] using Config.syncTimeout_ofEnvironment env
    | some t =>
      obtain ⟨n, hn⟩ := hf t ht
      have hseconds := Config.seconds?_eq_some_iff.mpr hn
      exact ⟨n, hn, by simp [Invocation.config, hi.syncTimeout, ht, hseconds]⟩

/-! ## Two spellings of one configuration -/

/-- A run with the options has their values, and the limit among them can be read. -/
theorem has_of_added (hadded : Added (chosen f.value) words line) (hwords : Bare words)
    (hrun : interpret line = .run i) :
    f.Readable ∧ f.Has i ∧ ∃ j, interpret words = .run j := by
  obtain ⟨hset, j, hj⟩ := hadded.run_back (nodup_chosen _)
    (fun s hs => hwords s (ne_output_of_mem hs)) hrun
  have hf : f.Readable := by
    intro t ht
    obtain ⟨-, hseconds⟩ := Given.exists_set_empty.mp (hset .syncTimeout t (mem_chosen.mpr ht))
    obtain ⟨n, hn⟩ := hseconds rfl
    exact ⟨n, Config.seconds?_eq_some_iff.mp hn⟩
  have hi := run_of_added hf hadded hwords hj
  rw [hrun] at hi
  cases hi
  exact ⟨hf, ⟨rfl, rfl, rfl⟩, j, hj⟩

theorem accepted_iff_of_added (hadded : Added (chosen f.value) words line) (hwords : Bare words) :
    (∃ i, interpret line = .run i) ↔ (∃ j, interpret words = .run j) ∧ f.Readable := by
  constructor
  · rintro ⟨i, hi⟩
    obtain ⟨hf, -, hj⟩ := has_of_added hadded hwords hi
    exact ⟨hj, hf⟩
  · rintro ⟨⟨j, hj⟩, hf⟩
    exact ⟨_, run_of_added hf hadded hwords hj⟩

theorem rejected_iff_of_added (hadded : Added (chosen f.value) words line) (hwords : Bare words)
    (hrun : interpret words = .run j) : (∃ e, interpret line = .rejected e) ↔ ¬ f.Readable := by
  constructor
  · rintro ⟨e, he⟩ hf
    rw [run_of_added hf hadded hwords hrun] at he
    cases he
  · intro hf
    exact rejected_of_added hf hadded hwords hrun

/-- Options are alike to variables with their values, wherever they stand in a command line and in
whatever order. -/
theorem alike_of_added {settings : List (Setting × String)}
    (hsettings : settings.Perm (chosen f.value)) (hadded : Added settings words line)
    (hwords : Bare words) (hm : f.memberLabel ≠ some "") (hs : f.serviceLabel ≠ some "")
    (hspelled : f.Spelled env env') : f.Alike words line env env' := by
  have hadded := hadded.perm hsettings
  refine ⟨accepted_iff_of_added hadded hwords, ?_, ?_, ?_⟩
  · rintro ⟨j, hj⟩ t ht
    rw [hspelled.syncTimeout_eq_none ht]
    exact rejected_iff_of_added hadded hwords hj
  · intro other i j hi hj hother
    obtain ⟨hf, hhas, -⟩ := has_of_added hadded hwords hi
    exact config_eq hm hs hf hspelled hhas (hother.run hj)
  · intro i hi
    obtain ⟨hf, hhas, -⟩ := has_of_added hadded hwords hi
    exact fieldsOf_config hf hhas

/-- Two labels and a limit. -/
def threeFlags : Flags :=
  { memberLabel := some "a", serviceLabel := some "b", syncTimeout := some "+5" }

def plainLine : List String := ["-o", "json", "get", "ns1"]

/-- The three options stand before, between and after the other words. -/
def scatteredLine : List String :=
  [Setting.serviceLabel.word "b", "-o", "json", Setting.syncTimeout.word "+5", "get", "ns1",
    Setting.memberLabel.word "a"]

/-- It has one of the labels. -/
def labelEnvironment : Environment := Std.ExtTreeMap.ofList [("BERTH_MEMBER_LABEL", "other")]

/-- It has the values of the three options. -/
def fullEnvironment : Environment := Std.ExtTreeMap.ofList
  [("BERTH_SYNC_TIMEOUT_SECS", "+5"), ("BERTH_MEMBER_LABEL", "a"), ("BERTH_SERVICE_LABEL", "b")]

theorem bare_plainLine : Bare plainLine := by
  intro s hs
  cases s
  case output => exact absurd rfl hs
  all_goals decide +kernel

theorem added_scatteredLine :
    Added [(.memberLabel, "a"), (.syncTimeout, "+5"), (.serviceLabel, "b")] plainLine
      scatteredLine := by
  have hservice : Added [(.serviceLabel, "b")] plainLine
      ([] ++ Setting.serviceLabel.word "b" :: plainLine) :=
    .cons .nil (by decide +kernel)
  have htimeout : Added [(.syncTimeout, "+5"), (.serviceLabel, "b")] plainLine
      ([Setting.serviceLabel.word "b", "-o", "json"] ++
        Setting.syncTimeout.word "+5" :: ["get", "ns1"]) :=
    .cons hservice (by decide +kernel)
  have hmember : Added [(.memberLabel, "a"), (.syncTimeout, "+5"), (.serviceLabel, "b")] plainLine
      ([Setting.serviceLabel.word "b", "-o", "json", Setting.syncTimeout.word "+5", "get", "ns1"] ++
        Setting.memberLabel.word "a" :: []) :=
    .cons htimeout (by decide +kernel)
  exact hmember

/-- The options win over the label of the environment, and come to the same as the variables. -/
theorem alike_of_added_scattered :
    threeFlags.Alike plainLine scatteredLine labelEnvironment fullEnvironment ∧
      ∃ i j, interpret scatteredLine = .run i ∧ interpret plainLine = .run j ∧
        i.config labelEnvironment = j.config fullEnvironment ∧
        i.config labelEnvironment =
          { memberLabel := "a", serviceLabel := "b", syncTimeout := some (.ofSeconds 5) } := by
  have halike : threeFlags.Alike plainLine scatteredLine labelEnvironment fullEnvironment :=
    alike_of_added (by decide) added_scatteredLine bare_plainLine (by decide) (by decide)
      ⟨by decide +kernel, by decide +kernel, by decide +kernel⟩
  have hplain : interpret plainLine = .run { output := .json, command := .get, ns := "ns1" } := by
    decide +kernel
  have hreadable : threeFlags.Readable := by
    rintro t ⟨⟩
    exact ⟨5, Config.seconds?_eq_some_iff.mp (by decide +kernel)⟩
  obtain ⟨i, hi⟩ := halike.accepted.mpr ⟨⟨_, hplain⟩, hreadable⟩
  have hconfig := halike.config plainLine i _ hi hplain bare_plainLine
  refine ⟨halike, i, _, hi, hplain, hconfig, ?_⟩
  rw [hconfig]
  decide +kernel

end Flags
end SandboxWatch.CommandLine
