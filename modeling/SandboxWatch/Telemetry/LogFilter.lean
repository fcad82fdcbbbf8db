import SandboxWatch.Text.Alphanumeric
import SandboxWatch.Text.Digits

/-!
# SandboxWatch.Telemetry.LogFilter

Log filters: directives between commas. A directive is a level or a target, or a target with a
level after an equals sign.
-/

namespace SandboxWatch.LogFilter

def levelNames : List String := ["off", "error", "warn", "info", "debug", "trace"]

/-- A level is given by its name, in any case, or by a number up to five. Nothing at all stands for
the least level that is on. -/
def isLevel (text : List Char) : Bool :=
  text = [] || levelNames.any (fun name => name.toList = text.map Char.toLower)
    || (Text.unsigned? 6 (String.ofList text)).isSome

/-- Whether a directive may begin with the character. -/
def isFirst (c : Char) : Bool :=
  Text.isAlphanumeric c || c = '-' || c = ':' || c = '_'

def isDirective : List Char → Bool
  | [] => true
  | c :: rest =>
    isFirst c &&
      match rest.dropWhile (· ≠ '=') with
      | '=' :: level => isLevel level
      | _ => true

/-- The texts between commas. -/
def parts : List Char → List (List Char)
  | [] => [[]]
  | ',' :: rest => [] :: parts rest
  | c :: rest =>
    match parts rest with
    | part :: others => (c :: part) :: others
    | [] => [[c]]

/-- One bad directive spoils the filter; empty ones are passed over. -/
def isValid (filter : String) : Bool := (parts filter.toList).all isDirective

end SandboxWatch.LogFilter
