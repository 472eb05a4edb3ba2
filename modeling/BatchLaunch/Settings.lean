/-!
How the jobs of a batch are started: `launcher workerFlag workers runtime script …`.
-/
namespace BatchLaunch

structure Settings where
  launcher : String
  workerFlag : String
  runtime : String
  script : String
  deriving DecidableEq, Repr

namespace Settings

def builtin : Settings := ⟨"mpiexec", "-n", "python", "bulk_test.py"⟩

end Settings
end BatchLaunch
