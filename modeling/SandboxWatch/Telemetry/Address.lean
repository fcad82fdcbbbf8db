import SandboxWatch.Text.Digits

/-!
# SandboxWatch.Telemetry.Address

Addresses to listen on: an IP address and a port.

* `SocketAddress.read?` — `a.b.c.d:port`, `[groups]:port` or `[groups%scope]:port`.
* `SocketAddress.text`  — the canonical text: groups in lower case without leading zeros, and the
  first of the longest runs of at least two zero groups as `::`.
-/

namespace SandboxWatch

structure IPv4 where
  a : Nat
  b : Nat
  c : Nat
  d : Nat
deriving DecidableEq, Repr

inductive SocketAddress where
  | v4 (ip : IPv4) (port : Nat)
  /-- Eight groups of sixteen bits. -/
  | v6 (groups : List Nat) (scope port : Nat)
deriving DecidableEq, Repr

namespace SocketAddress

/-! ## Reading -/

/-- Continues a number in the given base with the digits in front, `count` at most. Answers the
number, how many digits there were, and the rest; `none` when the number reaches the bound. -/
def digits? (base bound : Nat) : (count value read : Nat) → List Char →
    Option (Nat × Nat × List Char)
  | 0, value, read, cs => some (value, read, cs)
  | _ + 1, value, read, [] => some (value, read, [])
  | count + 1, value, read, c :: rest =>
    match Text.hexDigit? c with
    | some d =>
      if d < base then
        if base * value + d < bound then digits? base bound count (base * value + d) (read + 1) rest
        else none
      else some (value, read, c :: rest)
    | none => some (value, read, c :: rest)

/-- Reads at least one and at most `count` digits of a number below the bound. -/
def number? (base bound count : Nat) (cs : List Char) : Option (Nat × List Char) :=
  match digits? base bound count 0 0 cs with
  | some (_, 0, _) => none
  | some (value, _ + 1, rest) => some (value, rest)
  | none => none

def char? (c : Char) : List Char → Option (List Char)
  | d :: rest => if c = d then some rest else none
  | [] => none

/-- A number below 256 without leading zeros. -/
def octet? (cs : List Char) : Option (Nat × List Char) :=
  match number? 10 256 3 cs with
  | some (value, rest) =>
    if cs.head? = some '0' ∧ 1 < cs.length - rest.length then none else some (value, rest)
  | none => none

def ipv4? (cs : List Char) : Option (IPv4 × List Char) := do
  let (a, cs) ← octet? cs
  let (b, cs) ← octet? (← char? '.' cs)
  let (c, cs) ← octet? (← char? '.' cs)
  let (d, cs) ← octet? (← char? '.' cs)
  return (⟨a, b, c, d⟩, cs)

/-- A colon and a port; leading zeros do not matter. -/
def port? (cs : List Char) : Option (Nat × List Char) := do
  let cs ← char? ':' cs
  number? 10 65536 cs.length cs

def group? (cs : List Char) : Option (Nat × List Char) := number? 16 65536 4 cs

/-- Reads up to `limit` groups with colons between them; the first one comes after a colon too if
`first` is false. Where two more groups fit, an IPv4 address may stand for the last two. Says
whether it did. -/
def groups (first : Bool) : (limit : Nat) → List Char → List Nat × Bool × List Char
  | 0, cs => ([], false, cs)
  | limit + 1, cs =>
    match if first then some cs else char? ':' cs with
    | none => ([], false, cs)
    | some inner =>
      match if 1 ≤ limit then ipv4? inner else none with
      | some (ip, rest) => ([256 * ip.a + ip.b, 256 * ip.c + ip.d], true, rest)
      | none =>
        match group? inner with
        | some (g, rest) =>
          let (more, embedded, rest) := groups false limit rest
          (g :: more, embedded, rest)
        | none => ([], false, cs)

/-- Eight groups, or fewer with `::` in place of at least one zero group. -/
def ipv6? (cs : List Char) : Option (List Nat × List Char) :=
  let (head, embedded, rest) := groups true 8 cs
  if head.length = 8 then some (head, rest)
  else if embedded then none
  else
    match rest with
    | ':' :: ':' :: rest =>
      let (tail, _, rest) := groups true (7 - head.length) rest
      some (head ++ List.replicate (8 - head.length - tail.length) 0 ++ tail, rest)
    | _ => none

/-- The scope after a percent sign; zero if there is none. -/
def scope (cs : List Char) : Nat × List Char :=
  match char? '%' cs with
  | some rest =>
    match number? 10 UInt32.size rest.length rest with
    | some (n, rest) => (n, rest)
    | none => (0, cs)
  | none => (0, cs)

def readV4? (cs : List Char) : Option SocketAddress := do
  let (ip, cs) ← ipv4? cs
  let (port, cs) ← port? cs
  if cs = [] then some (.v4 ip port) else none

def readV6? (cs : List Char) : Option SocketAddress := do
  let (groups, cs) ← ipv6? (← char? '[' cs)
  let (scope, cs) := scope cs
  let (port, cs) ← port? (← char? ']' cs)
  if cs = [] then some (.v6 groups scope port) else none

def read? (text : String) : Option SocketAddress :=
  match readV4? text.toList with
  | some a => some a
  | none => readV6? text.toList

/-! ## Text -/

def hexChars (n : Nat) : List Char := Nat.toDigits 16 n

def joined (separator : Char) : List (List Char) → List Char
  | [] => []
  | [t] => t
  | t :: rest => t ++ [separator] ++ joined separator rest

def ipv4Chars (ip : IPv4) : List Char :=
  joined '.' ([ip.a, ip.b, ip.c, ip.d].map Text.decimal)

def groupChars (groups : List Nat) : List Char := joined ':' (groups.map hexChars)

/-- The number of zeros in front. -/
def zeros (groups : List Nat) : Nat := (groups.takeWhile (· = 0)).length

/-- Where the first of the longest runs of zero groups starts, and how long it is. -/
def longestZeros (groups : List Nat) : Nat × Nat :=
  (List.range groups.length).foldl
    (fun best i => if best.2 < zeros (groups.drop i) then (i, zeros (groups.drop i)) else best)
    (0, 0)

def ipv6Chars (groups : List Nat) : List Char :=
  match groups with
  | [0, 0, 0, 0, 0, 0xffff, x, y] =>
    [':', ':', 'f', 'f', 'f', 'f', ':'] ++ ipv4Chars ⟨x / 256, x % 256, y / 256, y % 256⟩
  | _ =>
    let (start, length) := longestZeros groups
    if 1 < length then
      groupChars (groups.take start) ++ [':', ':'] ++ groupChars (groups.drop (start + length))
    else groupChars groups

def chars : SocketAddress → List Char
  | .v4 ip port => ipv4Chars ip ++ [':'] ++ Text.decimal port
  | .v6 groups scope port =>
    ['['] ++ ipv6Chars groups ++ (if scope = 0 then [] else '%' :: Text.decimal scope)
      ++ [']', ':'] ++ Text.decimal port

def text (a : SocketAddress) : String := String.ofList a.chars

end SocketAddress
end SandboxWatch
