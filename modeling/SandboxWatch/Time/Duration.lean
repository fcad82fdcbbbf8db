import SandboxWatch.Text.Digits

/-!
# SandboxWatch.Time.Duration

Spans of time and their text, in the largest unit that has a whole part.
-/

namespace SandboxWatch

/-- Whole seconds, and nanoseconds below one second. -/
structure Duration where
  seconds : UInt64
  nanos : Nat := 0
  nanos_lt : nanos < 1000000000 := by decide
deriving DecidableEq, Repr

namespace Duration

def ofSeconds (n : UInt64) : Duration := { seconds := n }

/-- A span with any number of nanoseconds, if its seconds fit into 64 bits. -/
def ofParts? (seconds nanos : Nat) : Option Duration :=
  let total := seconds + nanos / 1000000000
  if total < UInt64.size then
    some ⟨UInt64.ofNat total, nanos % 1000000000, Nat.mod_lt _ (by decide)⟩
  else none

/-- `n` with leading zeros, `width` digits in all. -/
def padded (width n : Nat) : List Char :=
  List.replicate (width - (Text.decimal n).length) '0' ++ Text.decimal n

/-- A whole part and a fraction of `width` digits, without the zeros at its end. -/
def fixed (whole fraction width : Nat) : List Char :=
  let digits := ((padded width fraction).reverse.dropWhile (· = '0')).reverse
  if digits = [] then Text.decimal whole else Text.decimal whole ++ ['.'] ++ digits

def text (d : Duration) : String :=
  String.ofList <|
    if 0 < d.seconds then fixed d.seconds.toNat d.nanos 9 ++ ['s']
    else if 1000000 ≤ d.nanos then fixed (d.nanos / 1000000) (d.nanos % 1000000) 6 ++ ['m', 's']
    else if 1000 ≤ d.nanos then fixed (d.nanos / 1000) (d.nanos % 1000) 3 ++ ['µ', 's']
    else fixed d.nanos 0 0 ++ ['n', 's']

end Duration
end SandboxWatch
