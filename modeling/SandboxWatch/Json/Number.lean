import SandboxWatch.Json.Basic

/-!
# SandboxWatch.Json.Number

The numbers of JSON: how they are written and which of them are too large.

* `NumberPart`       — how far a number has come; `NumberPart.next?` takes one character.
* `NumberPart.split` — a number at the front of a text, as far as it goes, and what follows.
* `number?`          — the value of a number; `none` for one that is too large for a double.
-/

namespace SandboxWatch.Json

inductive NumberPart where
  | start | sign | zero | whole | point | fraction | mark | markSign | exponent
deriving DecidableEq, Repr

namespace NumberPart

/-- A number may end here. -/
def isComplete : NumberPart → Bool
  | .zero | .whole | .fraction | .exponent => true
  | .start | .sign | .point | .mark | .markSign => false

/-- The part that a character leads to, if the number goes on with it. -/
def next? (part : NumberPart) (c : Char) : Option NumberPart :=
  let digit (part : NumberPart) : Option NumberPart :=
    if Text.isDigit c then some part else none
  let tail : Option NumberPart := if c = 'e' ∨ c = 'E' then some .mark else none
  match part with
  | .start => if c = '-' then some .sign else if c = '0' then some .zero else digit .whole
  | .sign => if c = '0' then some .zero else digit .whole
  | .zero => if c = '.' then some .point else tail
  | .whole => if c = '.' then some .point else (digit .whole).or tail
  | .point => digit .fraction
  | .fraction => (digit .fraction).or tail
  | .mark => if c = '+' ∨ c = '-' then some .markSign else digit .exponent
  | .markSign => digit .exponent
  | .exponent => digit .exponent

/-- How far the number at the front of a text comes, its characters, and the text after it. -/
def split (part : NumberPart) : List Char → NumberPart × List Char × List Char
  | [] => (part, [], [])
  | c :: rest =>
    match part.next? c with
    | some part' =>
      let (last, text, rest) := split part' rest
      (last, c :: text, rest)
    | none => (part, [], c :: rest)

end NumberPart

/-- The whole number in a text of digits with an optional sign. -/
def wholeNumber? : List Char → Option Int
  | '-' :: digits => (Text.natural? digits).map fun n => -(n : Int)
  | '+' :: digits => (Text.natural? digits).map fun n => (n : Int)
  | digits => (Text.natural? digits).map fun n => (n : Int)

/-! ## Size -/

/-- The nearest number of at most 53 binary digits; of two equally near ones the one that ends
in a zero. -/
def nearestDouble (n : Nat) : Nat :=
  let unit := Nat.pow 2 (Nat.log2 n - 52)
  let kept := n / unit
  let lost := 2 * (n % unit)
  unit * (if unit < lost ∨ (lost = unit ∧ kept % 2 = 1) then kept + 1 else kept)

/-- Extends a number by the digits that follow it while it stays within 64 bits. Answers with the
number and the digits left out. -/
def leading (value : Nat) : List Char → Nat × List Char
  | [] => (value, [])
  | c :: rest =>
    let longer := 10 * value + (Text.digit? c).getD 0
    if longer < UInt64.size then leading longer rest else (value, c :: rest)

/-- Whether a number is too large for a double. What counts are its leading digits within 64 bits
and the power of ten of the last of them: each is rounded to a double, and so is their product,
which must not reach the middle between the largest double and the next power of two. -/
def isHuge (whole fraction : List Char) (exponent : Int) : Bool :=
  let (value, unread) := leading 0 whole
  let (digits, dropped) := leading value fraction
  let power := exponent + unread.length + dropped.length - fraction.length
  if digits = 0 then false
  else if 2147483647 < exponent ∨ 308 < power then true
  else Nat.pow 2 1024 - Nat.pow 2 970 ≤
    nearestDouble digits * nearestDouble (Nat.pow 10 power.toNat)

/-- The digits before and after the point, and the exponent. -/
def numberParts (text : List Char) : List Char × List Char × Int :=
  let isMark (c : Char) : Bool := c = 'e' ∨ c = 'E'
  let mantissa := (text.takeWhile (!isMark ·)).filter (· ≠ '-')
  let exponent := (text.dropWhile (!isMark ·)).drop 1
  (mantissa.takeWhile (· ≠ '.'), (mantissa.dropWhile (· ≠ '.')).drop 1,
    (wholeNumber? exponent).getD 0)

/-- The value of a complete number. Minus zero and whole numbers beyond 64 bits are no whole
numbers here. -/
def number? (part : NumberPart) (text : List Char) : Option Json :=
  let asReal : Option Json :=
    let (whole, fraction, exponent) := numberParts text
    if isHuge whole fraction exponent then none else some (.real text)
  match part with
  | .zero => if text = ['0'] then some (.int 0) else asReal
  | .whole =>
    match wholeNumber? text with
    | some i => if -9223372036854775808 ≤ i ∧ i < UInt64.size then some (.int i) else asReal
    | none => asReal
  | _ => asReal

end SandboxWatch.Json
