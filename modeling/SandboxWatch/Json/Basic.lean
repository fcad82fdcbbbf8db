import SandboxWatch.Text.Digits

/-!
# SandboxWatch.Json.Basic

JSON values and their compact text.

* `Json`          — a value; whole numbers within 64 bits are kept apart from all other numbers.
* `Json.field?`   — the value of a member of an object.
* `Json.compact`  — the text without blanks, members in the order in which they are held.
* `Json.Fault`    — why a text cannot be read.
-/

namespace SandboxWatch

inductive Json where
  | null
  | bool (b : Bool)
  /-- A whole number between `-2^63` and `2^64 - 1`, written without fraction and exponent. -/
  | int (i : Int)
  /-- Any other number, as it was written. -/
  | real (text : List Char)
  | str (s : String)
  | arr (items : List Json)
  | obj (members : List (String × Json))

namespace Json

instance : Inhabited Json := ⟨.null⟩

inductive Fault where
  /-- Something in the text is not what has to stand there. -/
  | malformed
  /-- The text ends too early. -/
  | truncated
deriving DecidableEq, Repr

/-- The members of an object; an object holds a name at most once. -/
abbrev Members := List (String × Json)

/-- Adds a member; one of the same name gives way to it. -/
def Members.put (ms : Members) (name : String) (v : Json) : Members :=
  ms.filter (·.1 ≠ name) ++ [(name, v)]

def Members.get? (ms : Members) (name : String) : Option Json :=
  (ms.find? (·.1 = name)).map (·.2)

def field? : Json → String → Option Json
  | .obj ms, name => Members.get? ms name
  | _, _ => none

/-! ## Compact text -/

def hexDigit (n : Nat) : Char := Nat.digitChar n

/-- One character inside a string: the quote, the backslash and the controls are escaped. -/
def escapedChar : Char → List Char
  | '"' => ['\\', '"']
  | '\\' => ['\\', '\\']
  | '\x08' => ['\\', 'b']
  | '\x0c' => ['\\', 'f']
  | '\n' => ['\\', 'n']
  | '\r' => ['\\', 'r']
  | '\t' => ['\\', 't']
  | c =>
    if c.toNat < 32 then ['\\', 'u', '0', '0', hexDigit (c.toNat / 16), hexDigit (c.toNat % 16)]
    else [c]

def stringChars (s : String) : List Char := ['"'] ++ s.toList.flatMap escapedChar ++ ['"']

def intChars : Int → List Char
  | .ofNat n => Text.decimal n
  | .negSucc n => '-' :: Text.decimal (n + 1)

mutual

def chars : Json → List Char
  | .null => ['n', 'u', 'l', 'l']
  | .bool true => ['t', 'r', 'u', 'e']
  | .bool false => ['f', 'a', 'l', 's', 'e']
  | .int i => intChars i
  | .real text => text
  | .str s => stringChars s
  | .arr items => ['['] ++ itemChars items ++ [']']
  | .obj members => ['\x7b'] ++ memberChars members ++ ['\x7d']

def itemChars : List Json → List Char
  | [] => []
  | [v] => chars v
  | v :: rest => chars v ++ [','] ++ itemChars rest

def memberChars : List (String × Json) → List Char
  | [] => []
  | [(name, v)] => stringChars name ++ [':'] ++ chars v
  | (name, v) :: rest => stringChars name ++ [':'] ++ chars v ++ [','] ++ memberChars rest

end

def compact (v : Json) : String := String.ofList v.chars

end Json
end SandboxWatch
