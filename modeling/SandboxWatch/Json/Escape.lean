import SandboxWatch.Json.Basic

/-!
# SandboxWatch.Json.Escape

The inside of a JSON string.

* `Piece`  — a character, or a 16-bit unit written as an escape.
* `pieces` — the pieces of a string up to its closing quote. They tell where a string ends, also
  where they make no text.
* `join`   — the text of the pieces: surrogates come in pairs, the high one first.
-/

namespace SandboxWatch.Json

inductive Piece where
  | char (c : Char)
  | unit (n : Nat)
deriving DecidableEq, Repr

/-- The character that a one-letter escape stands for. -/
def escaped? : Char → Option Char
  | '"' => some '"'
  | '\\' => some '\\'
  | '/' => some '/'
  | 'b' => some '\x08'
  | 'f' => some '\x0c'
  | 'n' => some '\n'
  | 'r' => some '\r'
  | 't' => some '\t'
  | _ => none

/-- The 16-bit unit that four hexadecimal digits stand for. -/
def unit? (a b c d : Char) : Option Nat := do
  let a ← Text.hexDigit? a
  let b ← Text.hexDigit? b
  let c ← Text.hexDigit? c
  let d ← Text.hexDigit? d
  return ((a * 16 + b) * 16 + c) * 16 + d

def byteCount (cs : List Char) : Nat := cs.foldl (fun n c => n + c.utf8Size) 0

/-- The pieces of a string from behind its opening quote, then the text behind its closing quote
or the reason why there is none. The digits of a unit are looked at when four bytes are there. -/
def pieces : List Char → List Piece × Except Fault (List Char)
  | [] => ([], .error .truncated)
  | '"' :: rest => ([], .ok rest)
  | ['\\'] => ([], .error .truncated)
  | '\\' :: 'u' :: a :: b :: c :: d :: rest =>
    match unit? a b c d with
    | some n =>
      let (ps, ending) := pieces rest
      (.unit n :: ps, ending)
    | none => ([], .error .malformed)
  | '\\' :: 'u' :: rest =>
    ([], .error (if byteCount rest < 4 then .truncated else .malformed))
  | '\\' :: c :: rest =>
    match escaped? c with
    | some e =>
      let (ps, ending) := pieces rest
      (.char e :: ps, ending)
    | none => ([], .error .malformed)
  | c :: rest =>
    if c.toNat < 32 then ([], .error .malformed)
    else
      let (ps, ending) := pieces rest
      (.char c :: ps, ending)

def isHigh (unit : Nat) : Bool := 0xD800 ≤ unit ∧ unit < 0xDC00

def isLow (unit : Nat) : Bool := 0xDC00 ≤ unit ∧ unit < 0xE000

/-- The character that a pair of surrogates stands for. -/
def pairChar (high low : Nat) : Char :=
  Char.ofNat (0x10000 + (high - 0xD800) * 0x400 + (low - 0xDC00))

/-- The text of the pieces before `ending`. A surrogate without its partner is malformed, before
the ending is looked at, unless its partner may be what is missing there. -/
def join {α : Type} (ending : Except Fault α) : List Piece → Except Fault (List Char × α)
  | [] => ending.map ([], ·)
  | .char c :: ps => (join ending ps).map fun (cs, a) => (c :: cs, a)
  | .unit high :: .unit low :: ps =>
    if isHigh high then
      if isLow low then (join ending ps).map fun (cs, a) => (pairChar high low :: cs, a)
      else .error .malformed
    else if isLow high then .error .malformed
    else (join ending (.unit low :: ps)).map fun (cs, a) => (Char.ofNat high :: cs, a)
  | .unit n :: ps =>
    if isHigh n then
      match ps, ending with
      | [], .error f => .error f
      | _, _ => .error .malformed
    else if isLow n then .error .malformed
    else (join ending ps).map fun (cs, a) => (Char.ofNat n :: cs, a)

end SandboxWatch.Json
