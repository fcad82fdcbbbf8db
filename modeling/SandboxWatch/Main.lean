import SandboxWatch.Program

/-!
# SandboxWatch.Main

The command line program.
-/

open SandboxWatch

/-- The variables that hold settings, as far as they are set. -/
def readEnvironment : IO Environment := do
  let names :=
    ["BERTH_MEMBER_LABEL", "BERTH_SERVICE_LABEL", "BERTH_SYNC_TIMEOUT_SECS", "BERTH_LOG",
     "BERTH_METRICS_ADDR"]
  names.foldlM
    (fun env name => do
      match ← IO.getEnv name with
      | some value => return env.insert name value
      | none => return env)
    ∅

def main (words : List String) : IO UInt32 := do
  let result := Program.run (← readEnvironment) words
  IO.print result.printed
  match result.errorLine with
  | some line => IO.eprintln line
  | none => pure ()
  return result.exitCode.toUInt32
