/-!
# SandboxWatch.CommandLine.Word

The words of a command line by their form.
-/

namespace SandboxWatch.CommandLine

inductive Word where
  /-- `--` alone; the words after it are plain. -/
  | escape
  /-- `--name` or `--name=value`. -/
  | long (name : String) (value : Option String)
  /-- A dash and letters. -/
  | short (letters : List Char)
  /-- Any other word; a dash alone is one. -/
  | plain
deriving DecidableEq, Repr

/-- Cuts a text at its first equals sign, if it has one. -/
def cutAtEquals : List Char → List Char × Option (List Char)
  | [] => ([], none)
  | '=' :: rest => ([], some rest)
  | c :: rest => let (name, value) := cutAtEquals rest; (c :: name, value)

def Word.ofText (text : String) : Word :=
  match text.toList with
  | ['-', '-'] => .escape
  | '-' :: '-' :: rest =>
    let (name, value) := cutAtEquals rest
    .long (String.ofList name) (value.map String.ofList)
  | '-' :: c :: rest => .short (c :: rest)
  | _ => .plain

end SandboxWatch.CommandLine
