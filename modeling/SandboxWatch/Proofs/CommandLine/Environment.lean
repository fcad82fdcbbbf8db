import SandboxWatch.Config
import SandboxWatch.Proofs.Text.Decimal

/-!
# SandboxWatch.Proofs.CommandLine.Environment

What the variables of an environment say.

* `Spells`   — the texts that give a number of seconds; `seconds?_eq_some_iff` says that no other is
  read as one.
* `LabelIs`, `TimeoutIs` — a label and the limit as an environment alone gives them.
-/

namespace SandboxWatch.Config

variable {env env' : Environment} {name t : String} {n : UInt64}

/-! ## Seconds -/

/-- An optional plus sign and one or more of the ten digits, with a value that fits into 64 bits. -/
def Spells (text : String) (n : UInt64) : Prop :=
  ∃ digits, (text.toList = digits ∨ text.toList = '+' :: digits) ∧ digits ≠ [] ∧
    (∀ c ∈ digits, '0' ≤ c ∧ c ≤ '9') ∧ Nat.ofDigitChars 10 digits 0 = n.toNat

theorem seconds?_eq_some_iff : seconds? t = some n ↔ Spells t n := by
  simp only [seconds?, Option.map_eq_some_iff, Text.unsigned?_eq_some_iff,
    Text.natural?_eq_some_iff, Text.isDigit_iff, Spells]
  constructor
  · rintro ⟨m, ⟨digits, htext, ⟨hne, hdigits, hm⟩, hlt⟩, rfl⟩
    exact ⟨digits, htext, hne, hdigits, by rw [hm, UInt64.toNat_ofNat_of_lt' hlt]⟩
  · rintro ⟨digits, htext, hne, hdigits, hn⟩
    exact ⟨n.toNat, ⟨digits, htext, ⟨hne, hdigits, hn⟩, n.toNat_lt⟩, by simp⟩

theorem seconds?_eq_none_iff : seconds? t = none ↔ ∀ n, ¬ Spells t n := by
  simp [Option.eq_none_iff_forall_ne_some, seconds?_eq_some_iff]

/-! ## Variables -/

/-- The value of a variable; the default counts where the variable is empty or unset. -/
inductive LabelIs (env : Environment) (name default : String) : String → Prop where
  | given {v : String} : env[name]? = some v → v ≠ "" → LabelIs env name default v
  | empty : env[name]? = some "" → LabelIs env name default default
  | unset : env[name]? = none → LabelIs env name default default

/-- The limit that the variable spells; there is none where it spells none or is unset. -/
inductive TimeoutIs (env : Environment) : Option Duration → Prop where
  | given {t : String} {n : UInt64} : env["BERTH_SYNC_TIMEOUT_SECS"]? = some t → Spells t n →
      TimeoutIs env (some (.ofSeconds n))
  | unreadable {t : String} : env["BERTH_SYNC_TIMEOUT_SECS"]? = some t → (∀ n, ¬ Spells t n) →
      TimeoutIs env none
  | unset : env["BERTH_SYNC_TIMEOUT_SECS"]? = none → TimeoutIs env none

theorem labelIs_nonempty? (env : Environment) (name default : String) :
    LabelIs env name default ((Environment.nonempty? env name).getD default) := by
  unfold Environment.nonempty?
  cases h : env[name]? with
  | none => exact .unset h
  | some v =>
    by_cases hv : v = ""
    · subst hv
      exact .empty h
    · simpa [hv] using .given h hv

theorem memberLabel_ofEnvironment (env : Environment) :
    LabelIs env "BERTH_MEMBER_LABEL" "blimp.customerPod" (ofEnvironment env).memberLabel :=
  labelIs_nonempty? env _ _

theorem serviceLabel_ofEnvironment (env : Environment) :
    LabelIs env "BERTH_SERVICE_LABEL" "blimp.service" (ofEnvironment env).serviceLabel :=
  labelIs_nonempty? env _ _

theorem syncTimeout_ofEnvironment (env : Environment) :
    TimeoutIs env (ofEnvironment env).syncTimeout := by
  unfold ofEnvironment
  cases h : env["BERTH_SYNC_TIMEOUT_SECS"]? with
  | none => exact .unset h
  | some t =>
    cases hn : seconds? t with
    | none => simpa [hn] using .unreadable h (seconds?_eq_none_iff.mp hn)
    | some n => simpa [hn] using .given h (seconds?_eq_some_iff.mp hn)

end SandboxWatch.Config
