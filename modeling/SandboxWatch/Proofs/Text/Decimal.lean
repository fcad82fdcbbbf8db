import SandboxWatch.Text.Digits

/-!
# SandboxWatch.Proofs.Text.Decimal

Digits as they are written and as they are read.

* `Text.natural?_eq_some_iff`, `Text.unsigned?_eq_some_iff` — the texts that are read as numbers.
* `Text.natural?_decimal`   — the digits of a number are read as that number.
* `Text.decimal_starts`     — only zero is written with a zero in front.
* `Text.hexDigit?_digitChar` — the same for one hexadecimal digit.
-/

namespace SandboxWatch
namespace Text

theorem digit?_eq (c : Char) : digit? c = if c.isDigit then some (c.toNat - '0'.toNat) else none := by
  simp [digit?, Char.isDigit, Char.le_def]

theorem isDigit_eq (c : Char) : isDigit c = c.isDigit := by
  cases h : c.isDigit <;> simp [isDigit, digit?_eq, h]

theorem isDigit_of_mem_decimal {n : Nat} {c : Char} (h : c ∈ decimal n) : isDigit c = true := by
  rw [isDigit_eq]
  exact Nat.isDigit_of_mem_toDigits (by decide) (by decide) h

theorem digitsFrom?_eq_ofDigitChars {cs : List Char} (h : ∀ c ∈ cs, isDigit c = true) (value : Nat) :
    digitsFrom? value cs = some (Nat.ofDigitChars 10 cs value) := by
  induction cs generalizing value with
  | nil => simp [digitsFrom?]
  | cons c rest ih =>
    have hc : c.isDigit = true := by simpa [isDigit_eq] using h c (by simp)
    simp [digitsFrom?, digit?_eq, hc, Nat.ofDigitChars_cons, ih fun d hd => h d (by simp [hd])]

theorem isDigit_iff (c : Char) : isDigit c = true ↔ '0' ≤ c ∧ c ≤ '9' := by
  by_cases h : '0' ≤ c ∧ c ≤ '9' <;> simp [isDigit, digit?, h]

theorem digitsFrom?_eq_some_iff {cs : List Char} {value n : Nat} : digitsFrom? value cs = some n ↔
    (∀ c ∈ cs, isDigit c = true) ∧ Nat.ofDigitChars 10 cs value = n := by
  constructor
  · intro h
    have hcs : ∀ c ∈ cs, isDigit c = true := by
      induction cs generalizing value with
      | nil => simp
      | cons c rest ih =>
        cases hc : digit? c with
        | none => simp [digitsFrom?, hc] at h
        | some d =>
          have hrest := ih (by simpa [digitsFrom?, hc] using h)
          simpa [isDigit, hc] using hrest
    exact ⟨hcs, by simpa [digitsFrom?_eq_ofDigitChars hcs] using h⟩
  · rintro ⟨hcs, rfl⟩
    exact digitsFrom?_eq_ofDigitChars hcs value

theorem natural?_eq_some_iff {cs : List Char} {n : Nat} : natural? cs = some n ↔
    cs ≠ [] ∧ (∀ c ∈ cs, isDigit c = true) ∧ Nat.ofDigitChars 10 cs 0 = n := by
  cases cs with
  | nil => simp [natural?]
  | cons c rest => simp [natural?, digitsFrom?_eq_some_iff]

/-- A plus sign is no digit, so there is one way at most to read a number. -/
theorem unsigned?_eq_some_iff {bound n : Nat} {text : String} : unsigned? bound text = some n ↔
    ∃ digits, (text.toList = digits ∨ text.toList = '+' :: digits) ∧ natural? digits = some n ∧
      n < bound := by
  have hplus (rest : List Char) : natural? ('+' :: rest) ≠ some n := by
    rw [Ne, natural?_eq_some_iff]
    rintro ⟨-, hdigits, -⟩
    exact absurd (hdigits '+' (by simp)) (by decide)
  unfold unsigned?
  split
  case h_1 rest htext =>
    cases hn : natural? rest <;> grind
  case h_2 hsign =>
    cases hn : natural? text.toList <;> grind

theorem decimal_ne_nil (n : Nat) : decimal n ≠ [] := Nat.toDigits_ne_nil

theorem natural?_decimal (n : Nat) : natural? (decimal n) = some n := by
  have h := digitsFrom?_eq_ofDigitChars (fun _ => isDigit_of_mem_decimal (n := n)) 0
  rw [decimal, Nat.ofDigitChars_ten_toDigits] at h
  cases hd : decimal n with
  | nil => exact absurd hd (decimal_ne_nil n)
  | cons c rest => rwa [← decimal, hd] at h

/-- A number other than zero starts with a digit other than zero. -/
theorem decimal_starts {n : Nat} (h : n ≠ 0) : ∃ c rest, decimal n = c :: rest ∧ c ≠ '0' := by
  induction n using Nat.strongRecOn with
  | ind n ih =>
    by_cases hn : n < 10
    · exact ⟨n.digitChar, [], Nat.toDigits_of_lt_base hn, by simpa using h⟩
    · obtain ⟨c, rest, hrest, hc⟩ := ih (n / 10) (by omega) (by omega)
      refine ⟨c, rest ++ [(n % 10).digitChar], ?_, hc⟩
      rw [decimal, Nat.toDigits_of_base_le (by decide) (by omega), ← decimal, hrest, List.cons_append]

theorem hexDigit?_digitChar {n : Nat} (h : n < 16) : hexDigit? n.digitChar = some n := by
  revert n
  decide

end Text
end SandboxWatch
