import BatchLaunch.Config.Basic

/-!
What a command line can say: flags, which stand alone, and settings, which take a value.
-/
namespace BatchLaunch.CommandLine

inductive Flag where
  | dryRun
  | wait
  | check
  | help
  | version
  deriving DecidableEq, Repr

inductive Setting where
  | config
  | logDir
  | decomposition
  | dimension
  | timeout
  deriving DecidableEq, Repr

def Flag.name : Flag → String
  | dryRun => "dry-run"
  | wait => "wait"
  | check => "check"
  | help => "help"
  | version => "version"

def Setting.name : Setting → String
  | config => "config"
  | logDir => "log-dir"
  | decomposition => "decomposition"
  | dimension => "dimension"
  | timeout => "timeout"

def Setting.placeholder : Setting → String
  | config => "CONFIG"
  | logDir => "LOG_DIR"
  | decomposition => "DECOMPOSITIONS"
  | dimension => "DIMENSIONS"
  | timeout => "TIMEOUT"

def Flag.spelling (flag : Flag) : String := "--" ++ flag.name

def Setting.spelling (setting : Setting) : String :=
  "--" ++ setting.name ++ " <" ++ setting.placeholder ++ ">"

def Flag.ofName? : String → Option Flag
  | "dry-run" => some dryRun
  | "wait" => some wait
  | "check" => some check
  | "help" => some help
  | "version" => some version
  | _ => none

def Setting.ofName? : String → Option Setting
  | "config" => some config
  | "log-dir" => some logDir
  | "decomposition" => some decomposition
  | "dimension" => some dimension
  | "timeout" => some timeout
  | _ => none

/-- What an accepted command line asks for. -/
structure Options where
  config : Option String
  logDir : Option String
  decompositions : List Decomposition
  dimensions : List UInt32
  dryRun : Bool
  wait : Bool
  /-- Seconds to wait for each job. -/
  timeout : Option UInt64
  check : Bool
  deriving DecidableEq, Repr

def Options.default : Options := ⟨none, none, [], [], false, false, none, false⟩

def Options.selection (options : Options) : Selection :=
  ⟨options.decompositions, options.dimensions⟩

end BatchLaunch.CommandLine
