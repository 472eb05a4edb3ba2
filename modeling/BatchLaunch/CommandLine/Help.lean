import BatchLaunch.CommandLine.Parse
import BatchLaunch.Text.Parts

/-!
What the program prints about itself, and its status after a command line that starts no run.
-/
namespace BatchLaunch.CommandLine

def programName : String := "bulk-launcher"

def versionText : String := programName ++ " 0.1.0\n"

def helpRows : List (String × String) := [
  ("    --config <CONFIG>",
    "YAML file overriding the launcher settings and/or the job table"),
  ("    --log-dir <LOG_DIR>",
    "Directory the \x60<decomposition><dimension>.out\x60 logs are written to"),
  ("    --decomposition <DECOMPOSITIONS>",
    "Only launch jobs with this decomposition (repeatable) [possible values: tvb, qrt, svd]"),
  ("    --dimension <DIMENSIONS>", "Only launch jobs with this dimension (repeatable)"),
  ("    --dry-run", "Print the equivalent shell commands instead of starting anything"),
  ("    --wait", "Wait for all jobs after launching and exit non-zero if any failed"),
  ("    --timeout <TIMEOUT>",
    "Upper bound in seconds for waiting on each job, jobs are left running past it"),
  ("    --check", "Validate the job table and launcher without starting anything"),
  ("-h, --help", "Print help"),
  ("-V, --version", "Print version")]

def helpRow (row : String × String) : String :=
  "  " ++ row.1 ++ String.ofList (List.replicate (36 - row.1.length) ' ') ++ "  " ++ row.2

def helpText (invokedAs : String) : String :=
  "Start a batch of detached distributed test jobs, one log file per job\n\nUsage: " ++ invokedAs ++
    " [OPTIONS]\n\nOptions:\n" ++ String.join (helpRows.map fun row => helpRow row ++ "\n")

namespace Stop

def message (invokedAs : String) : Stop → String
  | help => helpText invokedAs
  | version => versionText
  | refused fault => fault.message

/-- What is said at a glance: help and version in full, of a fault the first paragraph. -/
def summary (invokedAs : String) (stop : Stop) : String :=
  match stop with
  | help | version => stop.message invokedAs
  | refused fault => Text.firstParagraph fault.message

def exitCode : Stop → Nat
  | help | version => 0
  | refused _ => 2

end Stop
end BatchLaunch.CommandLine
