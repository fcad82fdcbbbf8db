/-!
# SandboxWatch.Text.Blank

The characters with the Unicode property `White_Space`.
-/

namespace SandboxWatch.Text

/-- The property's ranges, first and last code point. -/
def blankRanges : List (Nat × Nat) :=
  [(0x9, 0xD), (0x20, 0x20), (0x85, 0x85), (0xA0, 0xA0), (0x1680, 0x1680), (0x2000, 0x200A),
   (0x2028, 0x2029), (0x202F, 0x202F), (0x205F, 0x205F), (0x3000, 0x3000)]

/-- Whether a character lies in one of the ranges. -/
def inRanges (ranges : List (Nat × Nat)) (c : Char) : Bool :=
  ranges.any fun r => r.1 ≤ c.toNat ∧ c.toNat ≤ r.2

def isBlank (c : Char) : Bool := inRanges blankRanges c

def dropBlanks : List Char → List Char := List.dropWhile isBlank

end SandboxWatch.Text
