import BatchLaunch.CommandLine.Help
import BatchLaunch.Config.Decode
import BatchLaunch.Config.Preflight
import BatchLaunch.Launch.Mode

/-!
A whole run: read the configuration, then check the batch or launch what is selected of it. A
command line that is not accepted starts no run.
-/
namespace BatchLaunch

structure Ran (World : Type) where
  success : Bool
  out : Sink
  world : World
  log : List LogLine
  waitLog : List LogLine

namespace Ran

def exitCode {World : Type} (ran : Ran World) : Nat := if ran.success then 0 else 1

/-- Puts what was logged earlier before what a run logs. -/
def after {World : Type} (log : List LogLine) (ran : Ran World) : Ran World :=
  { ran with log := log ++ ran.log }

end Ran

namespace Config

variable {World Log Child : Type}

def parsedLine (config : Config) : LogLine :=
  .debug ("Loaded config with " ++ toString config.jobs.length ++ " jobs")

def load (machine : Machine World Log Child) (world : World) (path : String) :
    Except ConfigError Config :=
  match (machine.read world path).bind Text.Utf8.decode? with
  | none => .error (.unreadable path)
  | some text => (ofYaml text).mapError .unparsable

end Config

namespace Run

open CommandLine (Options)

variable {World Log Child : Type}

def check (machine : Machine World Log Child) (config : Config) (out : Sink) (world : World) :
    Ran World :=
  let findings := Preflight.run machine world config
  let closing : LogLine := if findings.problems.isEmpty then
      .info ("Preflight checks passed for " ++ toString config.jobs.length ++ " jobs")
    else .error (ConfigError.failedChecks findings.problems.length).message
  ⟨findings.problems.isEmpty, out, world, findings.log ++ [closing], []⟩

def mode (options : Options) : Mode :=
  .choose options.dryRun options.wait (options.timeout.map fun n => n.toNat * 1000000)

/-- Only a run that waits fails for its jobs. -/
def launch (machine : Machine World Log Child) (config : Config) (options : Options) (out : Sink)
    (world : World) : Ran World :=
  let jobs := config.select options.selection
  let opening := LogLine.info
    ("Launching " ++ toString jobs.length ++ " of " ++ toString config.jobs.length ++ " jobs")
  let done := (mode options).execute machine config.settings (options.logDir.getD "") jobs out world
  let ending : Bool × List LogLine := match done.report with
    | .error error => (false, [.error error.message])
    | .ok report =>
        if options.wait && !report.isSuccess then
          (false, [.error (toString report.failures ++ " of " ++
            toString report.outcomes.length ++ " jobs failed")])
        else (true, [])
  ⟨ending.1, done.out, done.world, opening :: done.log ++ ending.2, done.waitLog⟩

def withConfig (machine : Machine World Log Child) (config : Config) (options : Options)
    (out : Sink) (world : World) : Ran World :=
  if options.check then check machine config out world
  else launch machine config options out world

end Run

def run {World Log Child : Type} (machine : Machine World Log Child)
    (options : CommandLine.Options) (out : Sink) (world : World) : Ran World :=
  match options.config with
  | none => Run.withConfig machine .builtin options out world
  | some path =>
      match Config.load machine world path with
      | .error error => ⟨false, out, world, [.error error.message], []⟩
      | .ok config =>
          (Run.withConfig machine config options out world).after
            [config.parsedLine, .info ("Loaded config from " ++ path)]

/-- What a command line leaves behind, whether it was accepted or not. -/
structure Exit (World : Type) where
  code : Nat
  out : Sink
  notes : List String
  world : World

/-- Goes by a command line: runs it, or tells why not. -/
def obey {World Log Child : Type} (machine : Machine World Log Child) (invokedAs : String)
    (args : List String) (out : Sink) (world : World) : Exit World :=
  match CommandLine.parse args with
  | .ok options =>
      let ran := run machine options out world
      ⟨ran.exitCode, ran.out, (ran.log ++ ran.waitLog).map LogLine.render, ran.world⟩
  | .error stop =>
      let text := stop.message invokedAs
      if stop.exitCode = 0 then ⟨0, (out.write (Text.Utf8.encode text)).1, [], world⟩
      else ⟨stop.exitCode, out, [text], world⟩

end BatchLaunch
