import BatchLaunch.Shell.Evaluate

/-!
The shell as a program: its options, where its commands come from, and its parameters.
-/
namespace BatchLaunch.Shell

open Host (Program Action Call Reply)

inductive Source where
  | file (path : Chars)
  | text (commands : Chars)
  | input

structure StartOptions where
  settings : List Setting
  /-- Those that were turned off. All others count as on as long as the options are read. -/
  denied : List Setting
  asText : Bool
  reports : List Chars

structure Startup where
  source : Source
  name : Chars
  arguments : List Chars
  options : StartOptions

namespace StartOptions

def none : StartOptions := ⟨[], [], false, []⟩

def change (on : Bool) (setting : Setting) (options : StartOptions) : StartOptions :=
  { options with
    settings := setting.change on options.settings
    denied := setting.change (!on) options.denied }

def report (on : Bool) (options : StartOptions) : StartOptions :=
  let settings := (Setting.table.map (·.1)).filter (!options.denied.contains ·)
  { options with reports := options.reports ++
      [if on then Setting.report settings else Setting.commands settings] }

/-- The letters behind a sign. An `o` takes its name from the words that follow. -/
def letters (on : Bool) : Chars → List Chars → StartOptions →
    Except (StartOptions × Chars) (StartOptions × List Chars)
  | [], rest, options => .ok (options, rest)
  | 'c' :: more, rest, options => letters on more rest { options with asText := true }
  | 'l' :: more, rest, options => letters on more rest options
  | 'o' :: more, [], options =>
      letters on more [] (options.report on)
  | 'o' :: more, name :: rest, options =>
      match Setting.ofName? name with
      | some setting => letters on more rest (options.change on setting)
      | .none => .error (options, "Illegal option -o ".toList ++ name)
  | letter :: more, rest, options =>
      match Setting.ofLetter? letter with
      | some setting => letters on more rest (options.change on setting)
      | .none => .error (options, "Illegal option -".toList ++ [letter])

def ofWords : Nat → List Chars → StartOptions →
    Except (StartOptions × Chars) (StartOptions × List Chars)
  | 0, words, options => .ok (options, words)
  | _, ['-'] :: rest, options | _, ['-', '-'] :: rest, options => .ok (options, rest)
  | fuel + 1, (sign :: found) :: rest, options =>
      if sign = '-' || sign = '+' then
        (letters (sign = '-') found rest options).bind fun (options, rest) =>
          ofWords fuel rest options
      else .ok (options, (sign :: found) :: rest)
  | _, words, options => .ok (options, words)

end StartOptions

/-- What a shell called by a name is to do; an option that it does not know is refused. -/
def Startup.ofArgs (name : Chars) (args : List Chars) : Except (StartOptions × Chars) Startup :=
  (StartOptions.ofWords (args.length + 1) args .none).bind fun (options, words) =>
    let reading := options.change true .fromInput
    match options.asText, words with
    | true, [] => .error (options, "-c requires an argument".toList)
    | true, [commands] => .ok ⟨.text commands, name, [], options⟩
    | true, commands :: called :: rest => .ok ⟨.text commands, called, rest, options⟩
    | false, [] => .ok ⟨.input, name, [], reading⟩
    | false, path :: rest =>
        if options.settings.contains .fromInput then .ok ⟨.input, name, path :: rest, options⟩
        else .ok ⟨.file path, path, rest, options⟩

def Source.read : Source → Action (Except Chars Chars)
  | .text commands => pure (.ok commands)
  | .input => do
      let found ← Action.readAll 0 Jobs.patience
      pure (.ok (scriptOf found))
  | .file path => do
      match ← Action.call (.open (Text.octetsOf path) .read) with
      | .done descriptor =>
          let found ← Action.readAll descriptor Jobs.patience
          let _ ← Action.call (.close descriptor)
          pure (.ok (scriptOf found))
      | .refused errno =>
          pure (.error ("cannot open ".toList ++ path ++ ": ".toList ++
            reason errno "No such file"))
      | _ => pure (.ok [])

/-- Variables that a shell has before it looks at those it is given. Some have no value, but keep
their place. -/
def firstVariables : List (String × Option String) := [
  ("IFS", some " \t\n"), ("MAIL", none), ("MAILPATH", none),
  ("PATH", some "/usr/local/sbin:/usr/local/bin:/usr/sbin:/usr/bin:/sbin:/bin"),
  ("PS1", some "$ "), ("PS2", some "> "), ("PS4", some "+ "), ("OPTIND", some "1")]

def State.initial (startup : Startup) (pid : Host.Pid) : State where
  bindings := firstVariables.map fun (name, value) =>
    (name.toList, ⟨value.map String.toList, false, false⟩)
  arguments := startup.arguments
  options := .start
  name := startup.name
  doing := none
  line := 0
  lineRead := 0
  status := 0
  statusBefore := none
  innerStatus := 0
  pid := pid
  jobs := []
  lastBackground := none
  functions := []
  aliases := []
  found := []
  traps := []
  arrived := []
  settings := startup.options.settings
  limits := []
  loopDepth := 0
  calls := 0
  frames := []
  dir := []
  tracing := false

def isHere (path : Chars) : Act Bool := do
  if path.head? ≠ some '/' then return false
  else
    let there ← Act.call (.info (Text.octetsOf path) true)
    let here ← Act.call (.info (Text.octetsOf ['.']) true)
    match there, here with
    | .info there, .info here => return there.node = here.node
    | _, _ => return false

def setUp (environment : Host.Environment) : Act Unit := do
  for (name, value) in environment do
    let name := Text.charsOf name
    if isName name then
      Act.modify fun state => state.share name (Text.charsOf value)
  let parent := match ← Act.call .parent with
    | .done pid => pid
    | _ => 0
  Act.modify fun state =>
    ((state.assign "IFS".toList " \t\n".toList).assign "OPTIND".toList ['1']).assign
      "PPID".toList (Expand.natText parent)
  let given := ((← Act.get).value? "PWD".toList).getD []
  let dir ← if ← isHere given then pure given else Builtin.physicalDir
  Act.modify fun state => { state.share "PWD".toList dir with dir := dir }

def runSource (runner : Runner) (startup : Startup) (commands : Chars) : Act Unit := do
  for report in startup.options.reports do
    let _ ← Act.write 1 report
  let isText := startup.source matches .text _
  let mode : Mode := if isText then Mode.plain.whole else .plain
  let _ ← runText runner mode (!isText) commands

def faultStart (name : Chars) : Chars := name ++ ": 0: ".toList

def refuse (name fault : Chars) : Action Nat := do
  let _ ← Action.write 2 (Text.octetsOf (faultStart name ++ fault ++ ['\n']))
  pure 2

def start (name : Chars) (args : List Chars) (environment : Host.Environment) : Action Nat := do
  match Startup.ofArgs name args with
  | .error (options, fault) => do
      let status ← refuse name fault
      let _ ← Action.write 1 (Text.octetsOf options.reports.flatten)
      pure status
  | .ok startup =>
      match ← startup.source.read with
      | .error fault => refuse name fault
      | .ok commands =>
          let watched := startup.options.settings.contains .monitor
          if watched then
            let _ ← refuse startup.name Setting.noTerminal
          let startup := { startup with
            options.settings := Setting.monitor.change false startup.options.settings }
          let pid := match ← Action.call .pid with
            | .done pid => pid
            | _ => 0
          let runner := Evaluate.runner Evaluate.depth
          fun next => (do
            setUp environment
            wholeShell runner (runSource runner startup commands))
            (State.initial startup pid) fun result _ => next (result.toOption.getD 2)

def program (args : List Octets) (environment : Host.Environment) : Program :=
  match args.map Text.charsOf with
  | [] => (start "sh".toList [] environment).program
  | name :: rest => (start name rest environment).program

end BatchLaunch.Shell
