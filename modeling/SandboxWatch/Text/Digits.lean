/-!
# SandboxWatch.Text.Digits

Numbers written in ASCII digits.

* `natural?`  — the value of a text that holds digits only, at least one.
* `unsigned?` — the same with an optional plus sign in front and a bound on the value.
* `decimal`   — the digits of a number.
-/

namespace SandboxWatch.Text

def digit? (c : Char) : Option Nat :=
  if '0' ≤ c ∧ c ≤ '9' then some (c.toNat - 48) else none

def hexDigit? (c : Char) : Option Nat :=
  if '0' ≤ c ∧ c ≤ '9' then some (c.toNat - 48)
  else if 'a' ≤ c ∧ c ≤ 'f' then some (c.toNat - 87)
  else if 'A' ≤ c ∧ c ≤ 'F' then some (c.toNat - 55)
  else none

def isDigit (c : Char) : Bool := (digit? c).isSome

/-- Continues the number `value` with the digits that follow it. -/
def digitsFrom? : Nat → List Char → Option Nat
  | value, [] => some value
  | value, c :: rest =>
    match digit? c with
    | some d => digitsFrom? (10 * value + d) rest
    | none => none

def natural? : List Char → Option Nat
  | [] => none
  | cs => digitsFrom? 0 cs

/-- An optional plus sign, then digits whose value is below `bound`. -/
def unsigned? (bound : Nat) (text : String) : Option Nat :=
  let digits := match text.toList with
    | '+' :: rest => rest
    | cs => cs
  match natural? digits with
  | some n => if n < bound then some n else none
  | none => none

def decimal (n : Nat) : List Char := Nat.toDigits 10 n

end SandboxWatch.Text
