import SandboxWatch.Json.Reader
import SandboxWatch.Proofs.Text.Decimal

/-!
# SandboxWatch.Proofs.Json.Numbers

Whole numbers as they are written and as they are read. A number ends where it cannot go on, so what
stands behind it matters.

* `Delimits`        — what stands behind a value in a compact text.
* `split_decimal`   — the digits of a number are taken off the front of a text, all of them and
  nothing else.
* `number_intChars` — a written whole number is read as itself.
-/

namespace SandboxWatch.Json

/-- What may stand behind a value in a compact text: nothing, a comma or a closing bracket. -/
def Delimits (rest : List Char) : Prop := ∀ c ∈ rest.head?, c = ',' ∨ c = ']' ∨ c = '\x7d'

theorem delimits_nil : Delimits [] := by simp [Delimits]

theorem delimits_cons {c : Char} {rest : List Char} (h : c = ',' ∨ c = ']' ∨ c = '\x7d') :
    Delimits (c :: rest) := by simpa [Delimits] using h

theorem split_delimited {part : NumberPart} {rest : List Char} (hpart : part = .zero ∨ part = .whole)
    (hrest : Delimits rest) : part.split rest = (part, [], rest) := by
  cases rest with
  | nil => rfl
  | cons c rest =>
    have hnext : part.next? c = none := by
      rcases hpart with rfl | rfl <;> rcases hrest c rfl with rfl | rfl | rfl <;> decide
    simp [NumberPart.split, hnext]

theorem split_whole {digits rest : List Char} (hdigits : ∀ c ∈ digits, Text.isDigit c = true)
    (hrest : Delimits rest) :
    NumberPart.whole.split (digits ++ rest) = (.whole, digits, rest) := by
  induction digits with
  | nil => exact split_delimited (.inr rfl) hrest
  | cons c digits ih =>
    have hc := hdigits c (by simp)
    have hpoint : c ≠ '.' := by rintro rfl; revert hc; decide
    have hnext : NumberPart.whole.next? c = some .whole := by simp [NumberPart.next?, hpoint, hc]
    simp [NumberPart.split, hnext, ih fun d hd => hdigits d (by simp [hd])]

/-- A number other than zero leads from its first digit to its last. -/
theorem split_decimal {part : NumberPart} {n : Nat} {rest : List Char}
    (hpart : part = .start ∨ part = .sign) (hn : n ≠ 0) (hrest : Delimits rest) :
    part.split (Text.decimal n ++ rest) = (.whole, Text.decimal n, rest) := by
  obtain ⟨c, digits, hdecimal, hzero⟩ := Text.decimal_starts hn
  have hdigits : ∀ d ∈ c :: digits, Text.isDigit d = true := fun d hd =>
    Text.isDigit_of_mem_decimal (hdecimal ▸ hd)
  have hc := hdigits c (by simp)
  have hsign : c ≠ '-' := by rintro rfl; revert hc; decide
  have hnext : part.next? c = some .whole := by
    rcases hpart with rfl | rfl <;> simp [NumberPart.next?, hsign, hzero, hc]
  have hrun : NumberPart.whole.split (digits ++ rest) = (.whole, digits, rest) :=
    split_whole (fun d hd => hdigits d (List.mem_cons_of_mem c hd)) hrest
  simp [hdecimal, NumberPart.split, hnext, hrun]

theorem wholeNumber?_decimal (n : Nat) : wholeNumber? (Text.decimal n) = some (n : Int) := by
  have hdigits : ∀ c ∈ Text.decimal n, Text.isDigit c = true := fun _ => Text.isDigit_of_mem_decimal
  unfold wholeNumber?
  split
  case h_1 digits h => exact absurd (hdigits '-' (by simp [h])) (by decide)
  case h_2 digits h => exact absurd (hdigits '+' (by simp [h])) (by decide)
  case h_3 => simp [Text.natural?_decimal]

theorem number?_whole {text : List Char} {i : Int} (htext : wholeNumber? text = some i)
    (hlow : -9223372036854775808 ≤ i) (hhigh : i < UInt64.size) :
    number? .whole text = some (.int i) := by
  simp only [number?, htext]
  rw [if_pos ⟨hlow, hhigh⟩]

/-- A whole number within 64 bits is read as itself. -/
theorem number_intChars {i : Int} {rest : List Char} (hlow : -9223372036854775808 ≤ i)
    (hhigh : i < UInt64.size) (hrest : Delimits rest) :
    Reader.number (intChars i ++ rest) = .ok (.int i, rest) := by
  cases i with
  | ofNat n =>
    by_cases hn : n = 0
    · subst hn
      have hnext : NumberPart.start.next? '0' = some .zero := by decide
      simp [Reader.number, intChars, Text.decimal, NumberPart.split, hnext,
        split_delimited (.inl rfl) hrest, NumberPart.isComplete, number?]
    · have hvalue := number?_whole (wholeNumber?_decimal n) hlow hhigh
      simp [Reader.number, intChars, split_decimal (.inl rfl) hn hrest, NumberPart.isComplete,
        hvalue]
  | negSucc n =>
    have hnext : NumberPart.start.next? '-' = some .sign := by decide
    have hwhole : wholeNumber? ('-' :: Text.decimal (n + 1)) = some (.negSucc n) := by
      simp [wholeNumber?, Text.natural?_decimal, Int.negSucc_eq]
    simp [Reader.number, intChars, NumberPart.split, hnext,
      split_decimal (.inr rfl) n.succ_ne_zero hrest, NumberPart.isComplete,
      number?_whole hwhole hlow hhigh]

end SandboxWatch.Json
