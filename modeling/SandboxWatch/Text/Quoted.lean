import SandboxWatch.Text.Unprintable

/-!
# SandboxWatch.Text.Quoted

A text in quotes, as a message shows it: quotes, backslashes and the common controls are escaped
with a backslash, other characters that do not show as themselves by their code point.
-/

namespace SandboxWatch.Text

def hexadecimal (n : Nat) : List Char := Nat.toDigits 16 n

def quotedChar : Char → List Char
  | '"' => ['\\', '"']
  | '\\' => ['\\', '\\']
  | '\n' => ['\\', 'n']
  | '\r' => ['\\', 'r']
  | '\t' => ['\\', 't']
  | '\x00' => ['\\', '0']
  | c => if isUnprintable c then ['\\', 'u', '\x7b'] ++ hexadecimal c.toNat ++ ['\x7d'] else [c]

def quoted (text : String) : String :=
  String.ofList (['"'] ++ text.toList.flatMap quotedChar ++ ['"'])

end SandboxWatch.Text
