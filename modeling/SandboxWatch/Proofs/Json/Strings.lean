import SandboxWatch.Json.Reader
import SandboxWatch.Proofs.Text.Decimal

/-!
# SandboxWatch.Proofs.Json.Strings

Strings as they are written and as they are read.

* `pieces_escapedChar`   — a character is written as one piece: itself, or its number as a unit.
* `quoted_stringChars`   — a written string is read as itself, whatever follows it.
* `printable_stringChars` — no control stands in a written string.
-/

namespace SandboxWatch.Json

/-- A text without controls. -/
def Printable (cs : List Char) : Prop := ∀ c ∈ cs, 32 ≤ c.toNat

theorem Printable.append {as bs : List Char} (ha : Printable as) (hb : Printable bs) :
    Printable (as ++ bs) := fun c hc => (List.mem_append.1 hc).elim (ha c) (hb c)

/-- What a reader makes of one written character. -/
theorem pieces_escapedChar (c : Char) (tail : List Char) :
    ∃ p, (p = .char c ∨ p = .unit c.toNat) ∧
      pieces (escapedChar c ++ tail) = (p :: (pieces tail).1, (pieces tail).2) := by
  unfold escapedChar
  split
  case h_8 hquote hslash _ _ _ _ _ =>
    split
    case isTrue hctrl =>
      have hunit : unit? '0' '0' (hexDigit (c.toNat / 16)) (hexDigit (c.toNat % 16)) =
          some c.toNat := by
        simp only [unit?, hexDigit, Text.hexDigit?_digitChar (n := c.toNat / 16) (by omega),
          Text.hexDigit?_digitChar (n := c.toNat % 16) (by omega)]
        simp [Text.hexDigit?]
        omega
      exact ⟨.unit c.toNat, .inr rfl, by simp [pieces, hunit]⟩
    case isFalse hctrl =>
      refine ⟨.char c, .inl rfl, ?_⟩
      rw [List.singleton_append, pieces.eq_def]
      split <;> simp_all
  all_goals exact ⟨.char _, .inl rfl, by simp [pieces, escaped?]⟩

/-- No character is one half of a pair of surrogates. -/
theorem not_surrogate (c : Char) : isHigh c.toNat = false ∧ isLow c.toNat = false := by
  have h := c.valid
  simp only [UInt32.isValidChar, Nat.isValidChar] at h
  simp only [isHigh, isLow, Char.toNat, decide_eq_false_iff_not]
  omega

theorem join_char {α : Type} (ending : Except Fault α) (c : Char) (ps : List Piece) :
    join ending (.char c :: ps) = (join ending ps).map fun (cs, a) => (c :: cs, a) := by
  rw [join]

theorem join_unit {α : Type} (ending : Except Fault α) (c : Char) (ps : List Piece) :
    join ending (.unit c.toNat :: ps) = (join ending ps).map fun (cs, a) => (c :: cs, a) := by
  obtain ⟨hhigh, hlow⟩ := not_surrogate c
  rcases ps with _ | ⟨_ | low, ps⟩ <;> simp [join, hhigh, hlow]

theorem quoted_escaped (cs rest : List Char) :
    Reader.quoted (cs.flatMap escapedChar ++ '"' :: rest) = .ok (String.ofList cs, rest) := by
  have hjoin : join (pieces (cs.flatMap escapedChar ++ '"' :: rest)).2
      (pieces (cs.flatMap escapedChar ++ '"' :: rest)).1 = .ok (cs, rest) := by
    induction cs with
    | nil => simp [pieces, join, Except.map]
    | cons c cs ih =>
      rw [List.flatMap_cons, List.append_assoc]
      obtain ⟨p, rfl | rfl, hp⟩ := pieces_escapedChar c (cs.flatMap escapedChar ++ '"' :: rest)
      · rw [hp, join_char, ih]
        rfl
      · rw [hp, join_unit, ih]
        rfl
  simp only [Reader.quoted, hjoin]
  rfl

/-- The text of a string, from behind its opening quote, is read as that string. -/
theorem quoted_stringChars (s : String) (rest : List Char) :
    Reader.quoted ((stringChars s).tail ++ rest) = .ok (s, rest) := by
  simpa [stringChars] using quoted_escaped s.toList rest

theorem printable_escapedChar (c : Char) : Printable (escapedChar c) := by
  have hdigit : ∀ n < 16, 32 ≤ (hexDigit n).toNat := by decide
  unfold escapedChar
  split
  case h_8 =>
    split
    case isTrue hctrl =>
      simp [Printable, hdigit (c.toNat / 16) (by omega), hdigit (c.toNat % 16) (by omega)]
    case isFalse hctrl => simpa [Printable] using hctrl
  all_goals simp [Printable]

theorem printable_stringChars (s : String) : Printable (stringChars s) := by
  intro c hc
  simp only [stringChars, List.mem_append, List.mem_singleton, List.mem_flatMap] at hc
  rcases hc with (rfl | ⟨d, -, hd⟩) | rfl
  · decide
  · exact printable_escapedChar d c hd
  · decide

end SandboxWatch.Json
