import BatchLaunch.Config.Basic
import BatchLaunch.Executable
import BatchLaunch.LogLine
import BatchLaunch.Text.Blank

/-!
Checking a batch before it is launched. All problems are listed: those of the batch, of the launcher
and of the settings, then those of each job in turn.
-/
namespace BatchLaunch

/-- The numbers of a job that must not be zero. -/
inductive Quantity where
  | workers
  | problemSize
  | dimension
  deriving DecidableEq, Repr

/-- Two jobs are told by their positions. -/
inductive Problem where
  | noJobs
  | launcherMissing (launcher : String)
  | badSetting (name token : String)
  | zero (index : Nat) (job : Job) (quantity : Quantity)
  | badField (index : Nat) (name token : String)
  /-- A job and the latest one before it that writes the same log. -/
  | sharedLog (index previous : Nat) (log : String)
  deriving DecidableEq, Repr

def Quantity.complaint : Quantity → String
  | workers => " requests zero workers"
  | problemSize => " has a zero problem size"
  | dimension => " has a zero dimension"

namespace Problem

def place (index : Nat) : String := "jobs[" ++ toString index ++ "]"

def badToken (name token : String) : String :=
  name ++ " '" ++ token ++ "' must be a non-empty token"

def message : Problem → String
  | noJobs => "No jobs defined, nothing would be launched"
  | launcherMissing launcher =>
      "launcher '" ++ launcher ++ "' is not an executable file nor found on PATH"
  | badSetting name token => badToken name token
  | zero index job quantity =>
      place index ++ " (" ++ job.display ++ ")" ++ quantity.complaint
  | badField index name token => badToken (place index ++ "." ++ name) token
  | sharedLog index previous log =>
      place index ++ " and " ++ place previous ++ " both write to " ++ log

end Problem

namespace Preflight

def tokenProblems (make : String → String → Problem) (tokens : List (String × String)) :
    List Problem :=
  (tokens.filter fun token => !Text.isToken token.2).map fun token => make token.1 token.2

def settingProblems (settings : Settings) : List Problem :=
  tokenProblems .badSetting [("worker_flag", settings.workerFlag), ("runtime", settings.runtime),
    ("script", settings.script)]

def jobProblems (index : Nat) (job : Job) : List Problem :=
  (if job.workerCount = 0 then [.zero index job .workers] else []) ++
    (if job.problemSize = 0 then [.zero index job .problemSize] else []) ++
    (if job.dimension = 0 then [.zero index job .dimension] else []) ++
    tokenProblems (.badField index) [("algorithm", job.algorithm), ("method", job.method),
      ("distribution", job.distribution)]

/-- The problems of the jobs from a position on. `earlier` holds the logs of those before, the
latest first. -/
def batchProblems (index : Nat) (earlier : List (String × Nat)) : List Job → List Problem
  | [] => []
  | job :: jobs =>
      let shared := match earlier.lookup job.logName with
        | none => []
        | some previous => [.sharedLog index previous job.logName]
      jobProblems index job ++ shared ++
        batchProblems (index + 1) ((job.logName, index) :: earlier) jobs

def problems (config : Config) (launcher : Option String) : List Problem :=
  (if config.jobs.isEmpty then [.noJobs] else []) ++
    (if launcher.isNone then [.launcherMissing config.settings.launcher] else []) ++
    settingProblems config.settings ++ batchProblems 0 [] config.jobs

structure Findings where
  problems : List Problem
  log : List LogLine

def run {World Log Child : Type} (machine : Machine World Log Child) (world : World)
    (config : Config) : Findings :=
  let launcher := Executable.resolve machine world config.settings.launcher
  let found := problems config launcher
  ⟨found, (launcher.toList.map fun path => .debug ("Launcher resolved to " ++ path)) ++
    found.map fun problem => .error problem.message⟩

end Preflight
end BatchLaunch
