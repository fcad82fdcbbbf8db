import SandboxWatch.CommandLine.Help
import SandboxWatch.Telemetry.Settings

/-!
# SandboxWatch.Program

A run of the program where no cluster can be reached: help and version are printed, and any command
ends when the client cannot be built.
-/

namespace SandboxWatch

structure Program.Result where
  exitCode : Nat
  printed : String := ""
  /-- The first line of the error report. -/
  errorLine : Option String := none
deriving DecidableEq, Repr

namespace Program

def failure (message : String) : Result :=
  { exitCode := 1, errorLine := some ("Error: " ++ message) }

/-- Carries out a command; nothing is there to connect to. -/
def execute (env : Environment) (i : CommandLine.Invocation) : Result :=
  match Telemetry.prepare env i.verbose with
  | .error e => failure e.message
  | .ok _ => failure "building kube client"

def run (env : Environment) (words : List String) : Result :=
  match CommandLine.interpret words with
  | .help page => { exitCode := 0, printed := page.text }
  | .version => { exitCode := 0, printed := CommandLine.versionText }
  | .rejected _ => { exitCode := 2 }
  | .run i => execute env i

end Program
end SandboxWatch
