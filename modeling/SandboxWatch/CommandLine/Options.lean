import SandboxWatch.Config
import SandboxWatch.Status.Table

/-!
# SandboxWatch.CommandLine.Options

The options that may stand before or after the command.

* `Given` — the options given at one of the two places.
* `Given.orElse` — both places together; what is given after the command counts.
-/

namespace SandboxWatch.CommandLine

inductive UsageError where
  /-- Nothing was asked for, so help is shown. -/
  | nothingAsked
  | missingCommand
  | unknownCommand
  | unknownArgument
  | missingNamespace
  /-- An option was given twice at one place. -/
  | repeatedOption
  /-- An option lacks its value, or has one that is not among those possible. -/
  | invalidValue
  /-- An option has a value that cannot be read. -/
  | unreadableValue
  | unwantedValue
deriving DecidableEq, Repr

inductive Setting where
  | output
  | memberLabel
  | serviceLabel
  | syncTimeout
deriving DecidableEq, Repr

def Setting.ofName? : String → Option Setting
  | "output" => some .output
  | "member-label" => some .memberLabel
  | "service-label" => some .serviceLabel
  | "sync-timeout-secs" => some .syncTimeout
  | _ => none

structure Given where
  output : Option OutputFormat := none
  memberLabel : Option String := none
  serviceLabel : Option String := none
  syncTimeout : Option UInt64 := none
  /-- How often more words were asked for; counting stops at 255. -/
  verbose : Nat := 0
deriving DecidableEq, Repr

namespace Given

def isEmpty (g : Given) : Bool := g = {}

def moreVerbose (g : Given) : Given := { g with verbose := min (g.verbose + 1) 255 }

def set (g : Given) (s : Setting) (value : String) : Except UsageError Given :=
  match s with
  | .output =>
    match g.output, OutputFormat.ofText? value with
    | some _, _ => .error .repeatedOption
    | none, some f => .ok { g with output := some f }
    | none, none => .error .invalidValue
  | .memberLabel =>
    match g.memberLabel with
    | some _ => .error .repeatedOption
    | none => .ok { g with memberLabel := some value }
  | .serviceLabel =>
    match g.serviceLabel with
    | some _ => .error .repeatedOption
    | none => .ok { g with serviceLabel := some value }
  | .syncTimeout =>
    match g.syncTimeout, Config.seconds? value with
    | some _, _ => .error .repeatedOption
    | none, some n => .ok { g with syncTimeout := some n }
    | none, none => .error .unreadableValue

/-- The options of both places; those of the first argument count where both are given. -/
def orElse (inner outer : Given) : Given where
  output := inner.output.or outer.output
  memberLabel := inner.memberLabel.or outer.memberLabel
  serviceLabel := inner.serviceLabel.or outer.serviceLabel
  syncTimeout := inner.syncTimeout.or outer.syncTimeout
  verbose := if inner.verbose = 0 then outer.verbose else inner.verbose

end Given
end SandboxWatch.CommandLine
