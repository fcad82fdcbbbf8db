import SandboxWatch.Json.Decode
import SandboxWatch.Json.Escape
import SandboxWatch.Json.Number

/-!
# SandboxWatch.Json.Reader

Reading JSON text from front to back. The first thing that is wrong decides, and so does the place
where the text ends: whether it is malformed or cut off depends on what was asked for up to there.

* `Reader`        — takes something off the front of a text.
* `scalar`        — any value but an array or an object; `text`, `bool`, `int32` take one of a type.
* `array`, `object`, `members`, `tuple` — values with parts, each part read where it stands.
* `value`         — a value of any shape, nested to a limit.
* `skip`          — a value of any shape that is passed over: it may be nested without limit, its
  numbers may have any size and its strings any surrogates.
* `Json.read`     — a whole text as one value.
-/

namespace SandboxWatch.Json

abbrev Reader (α : Type) := StateT (List Char) (Except Fault) α

def isSpace (c : Char) : Bool := c = ' ' ∨ c = '\n' ∨ c = '\t' ∨ c = '\r'

namespace Reader

variable {α σ : Type}

def fail (f : Fault) : Reader α := fun _ => .error f

/-- A value that has to be there. -/
def orMalformed : Option α → Reader α
  | some a => pure a
  | none => fail .malformed

/-- Passes over the blanks and looks at the character behind them. -/
def peek : Reader Char := fun cs =>
  match cs.dropWhile isSpace with
  | [] => .error .truncated
  | c :: rest => .ok (c, c :: rest)

def advance : Reader Unit := fun cs => .ok ((), cs.tail)

def expect (c : Char) : Reader Unit := do
  if (← peek) = c then advance else fail .malformed

def word : List Char → Reader Unit
  | [], cs => .ok ((), cs)
  | _ :: _, [] => .error .truncated
  | d :: due, c :: cs => if c = d then word due cs else .error .malformed

/-- A string from behind its opening quote. -/
def quoted : Reader String := fun cs =>
  let (ps, ending) := pieces cs
  (join ending ps).map fun (s, rest) => (String.ofList s, rest)

def number : Reader Json := fun cs =>
  let (part, digits, rest) := NumberPart.start.split cs
  if part.isComplete then
    match number? part digits with
    | some v => .ok (v, rest)
    | none => .error .malformed
  else .error (if rest.isEmpty then .truncated else .malformed)

def startsNumber (c : Char) : Bool := c = '-' ∨ Text.isDigit c

def scalar : Reader Json := do
  match ← peek with
  | '"' => do
    advance
    return .str (← quoted)
  | 'n' => do
    word ['n', 'u', 'l', 'l']
    return .null
  | 't' => do
    word ['t', 'r', 'u', 'e']
    return .bool true
  | 'f' => do
    word ['f', 'a', 'l', 's', 'e']
    return .bool false
  | c => if startsNumber c then number else fail .malformed

/-! ## Values with parts -/

/-- Whether an array goes on with one more item. -/
def nextItem (first : Bool) : Reader Bool := do
  let c ← peek
  if c = ']' then return false
  else if first then return true
  else if c = ',' then
    advance
    if (← peek) = ']' then fail .malformed else return true
  else fail .malformed

/-- Whether an object goes on with one more member; then its opening quote comes next. -/
def nextName (first : Bool) : Reader Bool := do
  let c ← peek
  if c = '\x7d' then return false
  else if first then
    if c = '"' then return true else fail .malformed
  else if c = ',' then
    advance
    if (← peek) = '"' then return true else fail .malformed
  else fail .malformed

/-- Takes `step` as long as there is more. Each step takes a character at least, so the text that
is left at the beginning bounds their number. -/
def each (more : Bool → Reader Bool) (step : σ → Reader σ) : List Char → Bool → σ → Reader σ
  | [], _, _ => fail .truncated
  | _ :: bound, first, s => do
    if ← more first then each more step bound false (← step s) else return s

/-- Refuses what comes next, as soon as it is known. -/
def mismatch : Reader α := do
  let _ ← scalar
  fail .malformed

/-- An array whose items are taken in one after another. -/
def array (start : σ) (step : σ → Reader σ) : Reader σ := do
  if (← peek) = '[' then
    advance
    let s ← each nextItem step (← get) true start
    advance
    return s
  else mismatch

/-- An object whose members are taken in one after another; `step` begins behind the name. -/
def membersOf {κ : Type} (name : Reader κ) (start : σ) (step : σ → κ → Reader σ) : Reader σ := do
  if (← peek) = '\x7b' then
    advance
    let member (s : σ) : Reader σ := do
      advance
      step s (← name)
    let s ← each nextName member (← get) true start
    advance
    return s
  else mismatch

def members (start : σ) (step : σ → String → Reader σ) : Reader σ := membersOf quoted start step

/-- The value of a member, from behind its name. -/
def member (r : Reader α) : Reader α := do
  expect ':'
  r

/-- An object whose members are taken in one after another; of members of one name each is read,
and what the last one says comes after the others. -/
def object (start : σ) (step : σ → String → Reader σ) : Reader σ :=
  members start fun s name => member (step s name)

def tuple (body : Reader α) : Reader α := do
  if (← peek) = '[' then
    advance
    let a ← body
    expect ']'
    return a
  else mismatch

def item? (first : Bool) (r : Reader α) : Reader (Option α) := do
  if ← nextItem first then return some (← r) else return none

/-! ## Values of any shape -/

/-- How deep arrays and objects may be nested. -/
def maxDepth : Nat := 127

/-- A value whose arrays and objects are nested to the given depth at most. Of members of one name
the last one counts. -/
def value : Nat → Reader Json
  | 0 => scalar
  | depth + 1 => do
    match ← peek with
    | '[' => do
      let items ← array [] fun items => return (← value depth) :: items
      return .arr items.reverse
    | '\x7b' => do
      let ms ← object [] fun ms name => return Members.put ms name (← value depth)
      return .obj ms
    | _ => scalar

def skipQuoted : Reader Unit := fun cs => (pieces cs).2.map ((), ·)

/-- A number that is passed over has to be complete, also where the text ends. -/
def skipNumber : Reader Unit := fun cs =>
  let (part, _, rest) := NumberPart.start.split cs
  if part.isComplete then .ok ((), rest) else .error .malformed

/-- Passes over a value that is nested no deeper than `bound` is long. -/
def skipWithin : List Char → Reader Unit
  | [] => fail .truncated
  | _ :: bound => do
    match ← peek with
    | '[' => array () fun _ => skipWithin bound
    | '\x7b' => membersOf skipQuoted () fun _ _ => member (skipWithin bound)
    | '"' => do
      advance
      skipQuoted
    | c =>
      if startsNumber c then skipNumber
      else do
        let _ ← scalar
        return ()

/-- Passes over a value. An opening bracket takes a character, so no value is nested deeper than
its text is long. -/
def skip : Reader Unit := do
  skipWithin (← get)

/-! ## Values of a type -/

def typed (f : Json → Option α) : Reader α := do
  orMalformed (f (← scalar))

def text : Reader String := typed Json.string?

def exactly (want : String) : Reader Unit := do
  if (← text) = want then return () else fail .malformed

def bool : Reader Bool := typed Json.bool?

def int32 : Reader Int := typed Json.int32?

def int64 : Reader Int := typed Json.int64?

/-- A whole number from zero to below `bound`. -/
def below (bound : Nat) : Reader Nat := typed (Json.below? bound)

def nullable (r : Reader α) : Reader (Option α) := do
  if (← peek) = 'n' then
    word ['n', 'u', 'l', 'l']
    return none
  else return some (← r)

def listOf (r : Reader α) : Reader (List α) := do
  let items ← array [] fun items => return (← r) :: items
  return items.reverse

def mapOf (r : Reader α) : Reader (NameMap α) :=
  object ∅ fun map name => return map.insert name (← r)

/-- An object of which nothing is kept. -/
def anyObject : Reader Unit := object () fun _ _ => skip

/-- An object in which no member of the given names stands twice; all others are passed over.
Answers with the names that were there. -/
def record (names : List String) (start : σ) (step : σ → String → Reader σ) :
    Reader (σ × List String) :=
  members (start, []) fun (s, seen) name =>
    if name ∈ seen then fail .malformed
    else if name ∈ names then return (← member (step s name), name :: seen)
    else do
      member skip
      return (s, seen)

/-! ## Whole texts -/

/-- Reads a whole text; only blanks may follow. -/
def ofText (r : Reader α) (s : String) : Except Fault α :=
  match r s.toList with
  | .ok (a, rest) => if rest.all isSpace then .ok a else .error .malformed
  | .error f => .error f

/-- Reads a value as its text is read. -/
def ofJson? (r : Reader α) (v : Json) : Option α := (r.ofText v.compact).toOption

end Reader

def read (text : String) : Except Fault Json := (Reader.value Reader.maxDepth).ofText text

end SandboxWatch.Json
