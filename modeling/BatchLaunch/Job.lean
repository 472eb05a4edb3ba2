import BatchLaunch.Decomposition

/-!
One unit of work: how many workers, on which problem, and the name of the log it writes.
-/
namespace BatchLaunch

structure Job where
  workerCount : UInt32
  algorithm : String
  problemSize : UInt32
  method : String
  decomposition : Decomposition
  distribution : String
  dimension : UInt32
  deriving DecidableEq, Repr

/-- A count in decimal, without sign or leading zero. -/
def decimal (n : UInt32) : String := Nat.repr n.toNat

namespace Job

def display (job : Job) : String :=
  job.decomposition.tag ++ decimal job.dimension ++ " (" ++ decimal job.workerCount ++
    " workers, size " ++ decimal job.problemSize ++ ")"

/-- The log's file name, without a directory. Jobs that agree in decomposition and dimension share
it. -/
def logName (job : Job) : String :=
  job.decomposition.tag ++ decimal job.dimension ++ ".out"

def scriptArgs (job : Job) : List String :=
  [job.algorithm, decimal job.problemSize, job.method, job.decomposition.tag, job.distribution,
    decimal job.dimension]

end Job
end BatchLaunch
