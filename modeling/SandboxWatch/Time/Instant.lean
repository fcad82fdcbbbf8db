import SandboxWatch.Text.Blank
import SandboxWatch.Text.Digits

/-!
# SandboxWatch.Time.Instant

Points in time, and their text with a date, a time of day and an offset from UTC.

* `Instant`       — whole seconds since 1970 and nanoseconds; a leap second is the second before it
  with a thousand million or more nanoseconds.
* `Instant.read?` — the text, with blanks allowed between its parts.
-/

namespace SandboxWatch

structure Instant where
  seconds : Int
  nanos : Nat
deriving DecidableEq, Repr, Inhabited

namespace Instant

instance : LT Instant :=
  ⟨fun a b => a.seconds < b.seconds ∨ a.seconds = b.seconds ∧ a.nanos < b.nanos⟩

instance : DecidableLT Instant := fun a b =>
  inferInstanceAs (Decidable (a.seconds < b.seconds ∨ a.seconds = b.seconds ∧ a.nanos < b.nanos))

theorem lt_def {a b : Instant} :
    a < b ↔ a.seconds < b.seconds ∨ a.seconds = b.seconds ∧ a.nanos < b.nanos := Iff.rfl

/-! ## Dates of the Gregorian calendar -/

def isLeapYear (year : Int) : Bool :=
  year % 4 = 0 ∧ (year % 100 ≠ 0 ∨ year % 400 = 0)

def daysInMonth (year : Int) : Nat → Nat
  | 2 => if isLeapYear year then 29 else 28
  | 4 | 6 | 9 | 11 => 30
  | _ => 31

/-- Days in the months of a year before the given one. -/
def daysBeforeMonth (year : Int) : Nat → Nat
  | 0 => 0
  | 1 => 0
  | m + 2 => daysBeforeMonth year (m + 1) + daysInMonth year (m + 1)

/-- Days from the first day of the year 1970 to the first day of the given year. -/
def daysToYear (year : Int) : Int :=
  let y := year - 1
  365 * y + Int.fdiv y 4 - Int.fdiv y 100 + Int.fdiv y 400 - 719162

structure Date where
  year : Int
  month : Nat
  day : Nat
deriving DecidableEq, Repr

def Date.isValid (d : Date) : Bool :=
  1 ≤ d.month ∧ d.month ≤ 12 ∧ 1 ≤ d.day ∧ d.day ≤ daysInMonth d.year d.month

def Date.days (d : Date) : Int :=
  daysToYear d.year + daysBeforeMonth d.year d.month + (d.day - 1)

def minYear : Int := -262143

def maxYear : Int := 262142

/-- The first second in reach. -/
def minSeconds : Int := 86400 * daysToYear minYear

/-- The second after the last one in reach. -/
def endSeconds : Int := 86400 * daysToYear (maxYear + 1)

/-! ## Reading -/

/-- Reads one to `most` digits. -/
def number? (most : Nat) (cs : List Char) : Option (Nat × List Char) :=
  let digits := (cs.takeWhile Text.isDigit).take most
  match Text.natural? digits with
  | some n => some (n, cs.drop digits.length)
  | none => none

def spaced? (most : Nat) (cs : List Char) : Option (Nat × List Char) :=
  number? most (Text.dropBlanks cs)

def mark? (c : Char) (cs : List Char) : Option (List Char) :=
  match Text.dropBlanks cs with
  | d :: rest => if c = d then some rest else none
  | [] => none

/-- A year of at most four digits, or a signed year of any length. -/
def year? (cs : List Char) : Option (Int × List Char) :=
  match Text.dropBlanks cs with
  | '-' :: rest => (number? rest.length rest).map fun (n, rest) => (-(n : Int), rest)
  | '+' :: rest => (number? rest.length rest).map fun (n, rest) => ((n : Int), rest)
  | cs => (number? 4 cs).map fun (n, rest) => ((n : Int), rest)

def date? (cs : List Char) : Option (Date × List Char) := do
  let (year, cs) ← year? cs
  let cs ← mark? '-' cs
  let (month, cs) ← spaced? 2 cs
  let cs ← mark? '-' cs
  let (day, cs) ← spaced? 2 cs
  let date : Date := ⟨year, month, day⟩
  if date.isValid ∧ minYear ≤ year ∧ year ≤ maxYear then some (date, cs) else none

/-- The second of the day and the nanoseconds; second 60 counts as a long second 59. -/
def clock? (cs : List Char) : Option ((Nat × Nat) × List Char) := do
  let (hour, cs) ← spaced? 2 cs
  let cs ← mark? ':' cs
  let (minute, cs) ← spaced? 2 cs
  let cs ← mark? ':' cs
  let (second, cs) ← spaced? 2 cs
  if hour ≤ 23 ∧ minute ≤ 59 ∧ second ≤ 60 then
    let start := 3600 * hour + 60 * minute
    some (if second = 60 then ((start + 59, 1000000000), cs) else ((start + second, 0), cs))
  else none

/-- The nanoseconds of a fraction: nine digits count, the others are passed over. -/
def fraction? : List Char → Option (Nat × List Char)
  | '.' :: cs =>
    let digits := cs.takeWhile Text.isDigit
    let counted := digits.take 9
    match Text.natural? counted with
    | some n => some (n * Nat.pow 10 (9 - counted.length), cs.drop digits.length)
    | none => none
  | cs => some (0, cs)

def twoDigits? : List Char → Option (Nat × List Char)
  | a :: b :: rest =>
    match Text.natural? [a, b] with
    | some n => some (n, rest)
    | none => none
  | _ => none

/-- The size of an offset in seconds: hours, then minutes after colons or blanks. -/
def offsetSize? (cs : List Char) : Option (Nat × List Char) := do
  let (hours, cs) ← twoDigits? cs
  let (minutes, cs) ← twoDigits? (cs.dropWhile fun c => c = ':' ∨ Text.isBlank c)
  if hours ≤ 23 ∧ minutes ≤ 59 then some (3600 * hours + 60 * minutes, cs) else none

/-- The offset from UTC in seconds, eastward. -/
def zone? : List Char → Option (Int × List Char)
  | 'Z' :: rest => some (0, rest)
  | 'z' :: rest => some (0, rest)
  | '+' :: rest => (offsetSize? rest).map fun (n, rest) => ((n : Int), rest)
  | '-' :: rest => (offsetSize? rest).map fun (n, rest) => (-(n : Int), rest)
  | '\u2212' :: rest => (offsetSize? rest).map fun (n, rest) => (-(n : Int), rest)
  | u :: t :: c :: rest =>
    if u.toLower = 'u' ∧ t.toLower = 't' ∧ c.toLower = 'c' then some (0, rest) else none
  | _ => none

def between? : List Char → Option (List Char)
  | c :: rest => if c = 'T' ∨ c = 't' ∨ c = ' ' then some rest else none
  | [] => none

def readChars? (cs : List Char) : Option Instant := do
  let (date, cs) ← date? cs
  let cs ← between? cs
  let ((second, nanos), cs) ← clock? cs
  let (fraction, cs) ← fraction? cs
  let (offset, cs) ← zone? (Text.dropBlanks cs)
  let seconds := 86400 * date.days + second - offset
  if Text.dropBlanks cs = [] ∧ minSeconds ≤ seconds ∧ seconds < endSeconds then
    some ⟨seconds, nanos + fraction⟩
  else none

def read? (text : String) : Option Instant := readChars? text.toList

end Instant
end SandboxWatch
