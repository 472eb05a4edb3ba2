import BatchLaunch.Job
import BatchLaunch.Settings

/-!
A batch: the settings all its jobs share, and the jobs in launch order.
-/
namespace BatchLaunch

structure Config where
  settings : Settings
  jobs : List Job
  deriving DecidableEq, Repr

/-- Which jobs of a batch to launch. An empty list leaves its criterion open. -/
structure Selection where
  decompositions : List Decomposition
  dimensions : List UInt32
  deriving DecidableEq, Repr

namespace Selection

def admits (selection : Selection) (job : Job) : Bool :=
  (selection.decompositions.isEmpty || selection.decompositions.contains job.decomposition) &&
    (selection.dimensions.isEmpty || selection.dimensions.contains job.dimension)

end Selection

def Config.select (config : Config) (selection : Selection) : List Job :=
  config.jobs.filter selection.admits

end BatchLaunch
