import SandboxWatch.CommandLine.Invocation

/-!
# SandboxWatch.CommandLine.Help

The help pages and the version line.
-/

namespace SandboxWatch.CommandLine

def versionText : String := "berthctl 0.0.0\n"

/-- The lines of a page, each with its line feed. -/
def page (lines : List String) : String := String.join (lines.map (· ++ "\n"))

def overviewAbout : String := "Sandbox status from the cluster watch cache"

def Command.about : Command → String
  | .get => "Print the current status of a sandbox namespace"
  | .watch => "Print the status of a sandbox namespace every time it changes"

def helpAbout : String := "Print this message or the help of the given subcommand(s)"

/-- The options that may stand at either place. -/
def optionLines : List String :=
  ["Options:",
   "  -o, --output <OUTPUT>",
   "          Output format [default: human] [possible values: human, json]",
   "      --member-label <MEMBER_LABEL>",
   "          Label marking sandbox member pods (overrides BERTH_MEMBER_LABEL)",
   "      --service-label <SERVICE_LABEL>",
   "          Label naming a pod's service (overrides BERTH_SERVICE_LABEL)",
   "      --sync-timeout-secs <SYNC_TIMEOUT_SECS>",
   "          Give up if the initial cache sync takes longer (overrides BERTH_SYNC_TIMEOUT_SECS)",
   "  -v, --verbose...",
   "          Raise berth log verbosity (-v debug, -vv trace); ignored when BERTH_LOG is set",
   "  -h, --help",
   "          Print help"]

def HelpPage.text : HelpPage → String
  | .overview =>
    page <| [overviewAbout, "", "Usage: berthctl [OPTIONS] <COMMAND>", "", "Commands:",
      "  get    " ++ Command.get.about,
      "  watch  " ++ Command.watch.about,
      "  help   " ++ helpAbout, ""]
      ++ optionLines ++ ["  -V, --version", "          Print version"]
  | .command c =>
    page <| [c.about, "", "Usage: berthctl " ++ c.text ++ " [OPTIONS] <NAMESPACE>", "",
      "Arguments:", "  <NAMESPACE>  ", ""]
      ++ optionLines
  | .help =>
    page [helpAbout, "", "Usage: berthctl help [COMMAND]...", "", "Arguments:",
      "  [COMMAND]...  Print help for the subcommand(s)"]

end SandboxWatch.CommandLine
