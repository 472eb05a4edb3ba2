import BatchLaunch.Config.Basic

/-!
The built-in batch: every decomposition against every dimension.
-/
namespace BatchLaunch.Table

def algorithm : String := "macaulayreduction"

def method : String := "mult"

def distribution : String := "randn"

structure Sizing where
  dimension : UInt32
  workers : UInt32
  problemSize : UInt32
  deriving DecidableEq, Repr

def sizings : List Sizing := [⟨2, 6, 200⟩, ⟨3, 6, 100⟩, ⟨4, 8, 50⟩, ⟨5, 8, 20⟩]

def job (decomposition : Decomposition) (sizing : Sizing) : Job where
  workerCount := sizing.workers
  algorithm := algorithm
  problemSize := sizing.problemSize
  method := method
  decomposition := decomposition
  distribution := distribution
  dimension := sizing.dimension

def jobs : List Job :=
  Decomposition.all.flatMap fun decomposition => sizings.map (job decomposition)

end BatchLaunch.Table

namespace BatchLaunch

def Config.builtin : Config := ⟨Settings.builtin, Table.jobs⟩

end BatchLaunch
