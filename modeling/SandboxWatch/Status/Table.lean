import SandboxWatch.Status.Wire

/-!
# SandboxWatch.Status.Table

The table that shows a sandbox to a reader: a line with the namespace and the phase, then, if there
are services, a line of column heads and a line for each service in order of the names.
-/

namespace SandboxWatch

/-- How a status is shown. -/
inductive OutputFormat where
  | human
  | json
deriving DecidableEq, Repr

namespace OutputFormat

def text : OutputFormat → String
  | .human => "human"
  | .json => "json"

def ofText? : String → Option OutputFormat
  | "human" => some .human
  | "json" => some .json
  | _ => none

end OutputFormat

namespace Table

/-- Fills a cell with blanks on its right, counting characters. -/
def cell (width : Nat) (text : String) : String :=
  text ++ String.ofList (List.replicate (width - text.length) ' ')

def row (service phase started message : String) : String :=
  "  " ++ cell 20 service ++ " " ++ cell 22 phase ++ " " ++ cell 8 started ++ " " ++ message ++ "\n"

def serviceRow (name : String) (s : ServiceStatus) : String :=
  row name s.phase.text (if s.hasStarted then "yes" else "no") (s.message.getD "-")

/-- The whole table. -/
def render (ns : String) (s : SandboxStatus) : String :=
  let title := ns ++ ": " ++ s.phase.text ++ "\n"
  if s.services.isEmpty then title
  else
    s.services.toList.foldl (fun out e => out ++ serviceRow e.1 e.2)
      (title ++ row "SERVICE" "PHASE" "STARTED" "MESSAGE")

end Table

/-- What is printed for a status. -/
def SandboxStatus.printed (format : OutputFormat) (ns : String) (s : SandboxStatus) : String :=
  match format with
  | .human => Table.render ns s
  | .json => s.line ++ "\n"

end SandboxWatch
