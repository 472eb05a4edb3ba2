/-!
Messages that a run logs, each at a level.
-/
namespace BatchLaunch

inductive Level where
  | debug
  | info
  | warn
  | error
  deriving DecidableEq, Repr

def Level.name : Level → String
  | debug => "DEBUG"
  | info => "INFO"
  | warn => "WARN"
  | error => "ERROR"

structure LogLine where
  level : Level
  message : String
  deriving DecidableEq, Repr

namespace LogLine

def debug (message : String) : LogLine := ⟨.debug, message⟩

def info (message : String) : LogLine := ⟨.info, message⟩

def warn (message : String) : LogLine := ⟨.warn, message⟩

def error (message : String) : LogLine := ⟨.error, message⟩

def render (line : LogLine) : String := line.level.name ++ " " ++ line.message

end LogLine
end BatchLaunch
