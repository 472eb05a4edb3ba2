import BatchLaunch.Shell.Task

/-!
Running commands. What a command runs in turn is run by a shell with one step less to go, so every
script comes to an end.
-/
namespace BatchLaunch.Shell.Evaluate

open Host (Pid Descriptor Errno)

/-! The start of a simple command -/

def someFields (runner : Runner) : List Word → Act (List Chars × List Word)
  | [] => pure ([], [])
  | first :: rest => do
      match ← Expand.fieldsOf (outputOf runner) first with
      | [] => someFields runner rest
      | found => return (found, rest)

structure Head where
  passed : List Chars
  fields : List Chars
  words : List Word

namespace Head

/-- Goes behind the first field. There are fields then, unless the command ends here. -/
def advance (runner : Runner) (head : Head) : Act Head := do
  let passed := head.passed ++ head.fields.take 1
  match head.fields.drop 1 with
  | [] =>
      let (fields, words) ← someFields runner head.words
      return ⟨passed, fields, words⟩
  | fields => return ⟨passed, fields, head.words⟩

def back (count : Nat) (head : Head) : Head :=
  ⟨head.passed.take count, head.passed.drop count ++ head.fields, head.words⟩

/-- From `command` to the name of the command that it is about, and whether the standard path is
asked for. The answer is a head where it was if there is no such name or another option. -/
def behindCommand (runner : Runner) (start : Nat) :
    Nat → Bool → Head → Act (Head × Option Bool)
  | 0, _, head => pure (head.back start, none)
  | fuel + 1, standard, head => do
      let head ← head.advance runner
      match head.fields with
      | [] => return (head.back start, none)
      | ['-', '-'] :: _ =>
          let behind ← head.advance runner
          if behind.fields.isEmpty then return (behind.back start, none)
          else return (behind, some standard)
      | ('-' :: letter :: letters) :: _ =>
          if (letter :: letters).all (· = 'p') then behindCommand runner start fuel true head
          else return (head.back start, none)
      | _ => return (head, some standard)

end Head

inductive Meaning where
  | nothing
  | builtin
  | function (body : Command)
  | program

structure Resolved where
  head : Head
  meaning : Meaning
  special : Bool
  standardPath : Bool

def meaningOf (functions : Bool) (name : Chars) : Act Meaning := do
  let known := (← Act.get).functions.lookup name
  match if functions then known else none with
  | some body => return .function body
  | none => return if Builtin.isBuiltin name then .builtin else .program

def resolve (runner : Runner) : Nat → Resolved → Act Resolved
  | 0, found => pure found
  | fuel + 1, found => do
      match found.head.fields with
      | [] => return found
      | name :: _ =>
          if name = "command".toList && found.meaning matches .builtin then
            let (head, standard) ←
              found.head.behindCommand runner found.head.passed.length fuel found.standardPath
            match standard, head.fields with
            | some standard, next :: _ =>
                resolve runner fuel
                  { found with
                    head := head, meaning := ← meaningOf false next, standardPath := standard }
            | _, _ => return { found with head := head }
          else return found

def headLimit : Nat := 10000

def resolveWords (runner : Runner) (words : List Word) : Act Resolved := do
  let (fields, rest) ← someFields runner words
  let head : Head := ⟨[], fields, rest⟩
  match fields with
  | [] => return ⟨head, .nothing, false, false⟩
  | name :: _ =>
      let meaning ← meaningOf true name
      let special := meaning matches .builtin && Builtin.isSpecial name
      resolve runner headLimit ⟨head, meaning, special, false⟩

/-- Expands the words behind the start of a command. Where a command may make variables, a word of
the form `name=value` is expanded as the value of one. -/
def restOfWords (runner : Runner) (declares : Bool) : List Word → Act (List Chars)
  | [] => pure []
  | word :: rest => do
      let fields ← match if declares then Read.assignment? word else none with
        | some (name, value) => do
            pure [name ++ '=' :: (← Expand.single (outputOf runner) true value)]
        | none => Expand.fieldsOf (outputOf runner) word
      return fields ++ (← restOfWords runner declares rest)

/-! Assignments -/

inductive Scope where
  | lasting
  | shared
  | passing
  deriving DecidableEq, Repr

/-- Does assignments; the answer is what they look like when they are shown. -/
def assignAll (runner : Runner) (scope : Scope) : List (Chars × Word) → Act (List Chars)
  | [] => pure []
  | (name, word) :: rest => do
      let value ← Expand.single (outputOf runner) true word
      let old := (← Act.get).lookup? name
      assign name value
      if scope = .passing then
        Act.modify fun state => state.hide fun frame =>
          { frame with hidden := (name, old) :: frame.hidden }
      if scope ≠ .lasting then Act.modify fun state => state.exported name
      return (name ++ '=' :: value) :: (← assignAll runner scope rest)

/-- Does something with variables and settings that last no longer. Only at the end it is noticed if
one of them has no proper name. -/
def withFrame {α : Type} (act : Act α) : Act α := do
  Act.modify fun state => { state with frames := ⟨[], none⟩ :: state.frames }
  let result ← Act.attempt act
  let frame := (← Act.get).frames.headD ⟨[], none⟩
  Act.modify fun state => { state with frames := state.frames.drop 1 }
  putBack frame.hidden
  if let some settings := frame.settings then
    Act.modify fun state => { state with settings := settings }
  let ends := match result with
    | .error (.exit _) | .error .fault => true
    | _ => false
  match frame.hidden.find? fun (name, held) => held.isNone && !isName name with
  | some (name, _) =>
      if ends then Act.resume result else Act.fault (name ++ ": bad variable name".toList)
  | none => Act.resume result

def traceStart (state : State) : Chars := (state.value? "PS4".toList).getD []

def trace (runner : Runner) (kept : List Kept) (shown : List Chars) : Act Unit := do
  let state ← Act.get
  if state.settings.contains .trace && !state.tracing then
    let target := (kept.find? (·.descriptor = 2)).bind Kept.copy |>.getD 2
    Act.modify fun state => { state with tracing := true }
    let start ← Act.andThen (Expand.prompt (outputOf runner) (traceStart state))
      (Act.modify fun state => { state with tracing := false })
    let _ ← Act.write target (start ++ Tools.joinWords shown ++ ['\n'])

/-! Commands that run others -/

def callLimit : Nat := 1000

def callFunction (runner : Runner) (mode : Mode) (body : Command) (args : List Chars) :
    Act Unit := do
  let before ← Act.get
  Act.modify fun state => { state with calls := state.calls + 1 }
  if callLimit < before.calls + 1 then
    Act.fault "Maximum function recursion depth (1000) reached".toList
  else
    Act.modify fun state => { state with
      arguments := args, options := .start, loopDepth := 0 }
    let result ← Act.attempt (runner mode.inner body)
    Act.modify fun state => { state with
      arguments := before.arguments, options := before.options, loopDepth := before.loopDepth
      calls := state.calls - 1 }
    match result with
    | .error (.give code) => Act.setStatus code
    | other => Act.resume other

def evaluateWords (runner : Runner) (mode : Mode) (words : List Chars) : Act Unit := do
  let ran ← runText runner mode.inner false (Tools.joinWords words)
  if !ran then Act.setStatus 0

def commandFile (name : Chars) : Act Chars := do
  if name.contains '/' then return name
  else
    match ← Search.first Search.isRegular .noEntry
        (Search.candidatesFor (← Search.variablePath) name) with
    | .ok path => return path
    | .error _ => Act.fault (name ++ ": not found".toList)

def runFile (runner : Runner) : List Chars → Act Unit
  | [] => Act.setStatus 0
  | name :: _ => do
      let path ← commandFile name
      match ← Act.call (.open (Text.octetsOf path) .read) with
      | .done descriptor =>
          let found ← Act.ofAction (Host.Action.readAll descriptor Jobs.patience)
          let _ ← Act.call (.close descriptor)
          match ← Act.attempt (Act.doing path (runText runner .plain true (scriptOf found))) with
          | .ok ran => if !ran then Act.setStatus 0
          | .error (.give code) => Act.setStatus code
          | .error stop => Act.stop stop
      | .refused errno =>
          Act.fault ("cannot open ".toList ++ path ++ ": ".toList ++ reason errno "No such file")
      | _ => Act.setStatus 1

def becomeProgram : List Chars → Act Unit
  | [] => Act.setStatus 0
  | name :: args => do
      replaceShell name args (Search.candidatesFor (← Search.variablePath) name)

def behindOptions (words : List Chars) : Act (List Chars) :=
  match Builtin.optionsOf [] [] words with
  | .ok (_, rest) => pure rest
  | .error fault => Act.fault fault.text

def runBuiltin (runner : Runner) (mode : Mode) (name : Chars) (args : List Chars) : Act Unit :=
  match String.ofList name with
  | "eval" => evaluateWords runner mode args
  | "." => do runFile runner (← behindOptions args)
  | "exec" => becomeProgram args
  | called =>
      match Builtin.find? called with
      | some builtin => do Act.setStatus (← builtin args)
      | none => Act.setStatus 127

def runProgram (mode : Mode) (standardPath : Bool) (name : Chars) (args : List Chars) :
    Act Unit := do
  let searchPath ← if standardPath then pure (some Search.standardPath) else Search.variablePath
  let all := Search.candidatesFor searchPath name
  let found ← if standardPath && !name.contains '/' then
      Search.first Search.isProgram .noEntry all
    else Search.program name
  match found with
  | .error errno =>
      Act.complain (name ++ ": ".toList ++ reason errno "not found")
      Act.setStatus 127
  | .ok path =>
      let paths := match all.dropWhile (· ≠ path) with
        | [] => [path]
        | rest => rest
      if mode.last && !(← hasTraps) then replaceShell name args paths
      else
        let _ ← Jobs.claim
        let pid ← Act.fork do
          enterSubshell
          replaceShell name args paths
          return 127
        Act.setStatus (← Jobs.waitForeground [pid])

/-! Simple commands -/

/-- Runs what a command stands for. What is wrong in one of the shell's own commands does not end
the shell unless it is a special one. -/
def dispatch (runner : Runner) (mode : Mode) (found : Resolved) (fields : List Chars) : Act Unit :=
  match found.meaning, fields with
  | .builtin, name :: args => do
      match ← Act.attempt (Act.doing name (runBuiltin runner mode name args)) with
      | .error .fault => if found.special then Act.stop .fault
      | result => Act.resume result
  | .function body, _ :: args => callFunction runner mode body args
  | .program, name :: args => runProgram mode found.standardPath name args
  | _, _ => do Act.setStatus (← Act.get).innerStatus

def simple (runner : Runner) (mode : Mode) (line : Nat) (assignments : List (Chars × Word))
    (words : List Word) (redirects : List Redirect) : Act Unit := do
  Act.modify fun state => { state with line := line, innerStatus := 0 }
  let found ← resolveWords runner words
  let name := found.head.fields.headD []
  let declares := found.meaning matches .builtin && Builtin.declares name
  let more ← restOfWords runner declares found.head.words
  let fields := found.head.fields ++ more
  let lasts := found.special || found.meaning matches .nothing
  let executes := found.meaning matches .builtin && name = "exec".toList
  let scope : Scope :=
    if !lasts then .passing else if executes && 1 < fields.length then .shared else .lasting
  let act : Act Unit := do
    let redirections ← Redirection.ofRedirects (outputOf runner) redirects
    let outcome ← Redirection.doAll (outputOf runner) redirections []
    match outcome.stop with
    | some stop =>
        Redirection.restore outcome.kept
        if stop = .fault && !found.special then Act.setStatus 2 else Act.stop stop
    | none =>
        let result ← Act.attempt do
          let assigned ← assignAll runner scope assignments
          trace runner outcome.kept (assigned ++ found.head.passed ++ fields)
          dispatch runner mode found fields
        if executes && result matches .ok () then Redirection.forget outcome.kept
        else Redirection.restore outcome.kept
        Act.resume result
  if lasts then act else withFrame act

/-! Pipelines and tasks in the background -/

def lookAhead : Command → Act Unit
  | .simple _ _ (word :: _) _ =>
      match literal? word with
      | some name => do
          if isName name && !Builtin.isBuiltin name &&
              ((← Act.get).functions.lookup name).isNone then
            let _ ← Search.program name
      | none => pure ()
  | _ => pure ()

/-- What is done first in a task that nobody waits for: the first one of several reads nothing. -/
def detach (reads : Bool) : Act Unit := do
  let _ ← Act.call (.setDisposition 2 .ignored)
  let _ ← Act.call (.setDisposition 3 .ignored)
  if !reads then
    match ← Act.call (.open (Text.octetsOf "/dev/null".toList) .read) with
    | .done opened => Redirection.move opened 0
    | _ => pure ()

def startParts (runner : Runner) (mode : Mode) (detached : Bool) :
    Option Descriptor → List Command → Act (List Pid)
  | _, [] => pure []
  | input, [part] => do
      lookAhead part
      let pid ← forkShell runner do
        if detached then detach input.isSome
        if let some input := input then Redirection.move input 0
        runner mode.whole part
      if let some input := input then
        let _ ← Act.call (.close input)
      return [pid]
  | input, part :: rest => do
      lookAhead part
      match ← Act.call .pipe with
      | .descriptors readEnd writeEnd =>
          let pid ← forkShell runner do
            if detached then detach input.isSome
            let _ ← Act.call (.close readEnd)
            if let some input := input then Redirection.move input 0
            Redirection.move writeEnd 1
            runner mode.whole part
          if let some input := input then
            let _ ← Act.call (.close input)
          let _ ← Act.call (.close writeEnd)
          return pid :: (← startParts runner mode detached (some readEnd) rest)
      | _ => Act.fault "Pipe call failed".toList

def addJob (number : Nat) (pids : List Pid) : Act Unit := Act.modify fun state => { state with
  jobs := ⟨number, pids.map (·, none), false⟩ :: state.jobs
  lastBackground := pids.getLast?
  status := 0 }

def background (runner : Runner) (mode : Mode) (body : Command) (redirects : List Redirect) :
    Act Unit := do
  match body with
  | .pipeline parts =>
      let number ← Jobs.claim
      addJob number (← startParts runner mode true none parts)
  | _ =>
      let redirections ← Redirection.ofRedirects (outputOf runner) redirects
      let number ← Jobs.claim
      let pid ← forkShell runner do
        detach false
        Redirection.settle (outputOf runner) redirections
        runner Mode.plain.whole body
      addJob number [pid]

def pipeline (runner : Runner) (mode : Mode) (parts : List Command) : Act Unit := do
  let _ ← Jobs.claim
  let pids ← startParts runner mode false none parts
  Act.setStatus (← Jobs.waitForeground pids)

def subshell (runner : Runner) (mode : Mode) (line : Nat) (body : Command)
    (redirects : List Redirect) : Act Unit := do
  Act.modify fun state => { state with line := line }
  let redirections ← Redirection.ofRedirects (outputOf runner) redirects
  let act : Act Unit := do
    Redirection.settle (outputOf runner) redirections
    runner mode.whole body
  if mode.last && !(← hasTraps) then
    enterSubshell
    act
  else
    let _ ← Jobs.claim
    let pid ← forkShell runner act
    Act.setStatus (← Jobs.waitForeground [pid])

/-! Commands with parts -/

inductive Step where
  | onward
  | again
  | out
  deriving DecidableEq, Repr

def loopStep (act : Act Unit) : Act Step := do
  Act.modify fun state => { state with loopDepth := state.loopDepth + 1 }
  let result ← Act.attempt act
  Act.modify fun state => { state with loopDepth := state.loopDepth - 1 }
  match result with
  | .ok () => return .onward
  | .error (.leave levels) =>
      Act.setStatus 0
      if levels ≤ 1 then return .out else Act.stop (.leave (levels - 1))
  | .error (.again levels) =>
      Act.setStatus 0
      if levels ≤ 1 then return .again else Act.stop (.again (levels - 1))
  | .error stop => Act.stop stop

def loopLimit : Nat := 1000000

/-- Goes through a loop as long as its condition has the status that it asks for. The status is that
of the last time, or the one given. -/
def loop (runner : Runner) (mode : Mode) (untilTrue : Bool) (condition body : Command) :
    Nat → Nat → Act Unit
  | 0, status => Act.setStatus status
  | fuel + 1, status => do
      let _ ← Act.call .pause
      match ← loopStep (runner .condition condition) with
      | .out => Act.setStatus status
      | .again => loop runner mode untilTrue condition body fuel status
      | .onward =>
          if ((← Act.get).status = 0) = untilTrue then Act.setStatus status
          else
            match ← loopStep (runner mode.inner body) with
            | .out => pure ()
            | _ => loop runner mode untilTrue condition body fuel (← Act.get).status

def each (runner : Runner) (mode : Mode) (name : Chars) (body : Command) : List Chars → Act Unit
  | [] => pure ()
  | value :: rest => do
      let _ ← Act.call .pause
      assign name value
      match ← loopStep (runner mode.inner body) with
      | .out => pure ()
      | _ => each runner mode name body rest

def fits (runner : Runner) (subject : Chars) : List Word → Act Bool
  | [] => pure false
  | word :: rest => do
      if Text.Pattern.matchesAll (← Expand.pattern (outputOf runner) word) subject then return true
      else fits runner subject rest

def select (runner : Runner) (mode : Mode) (subject : Chars) : List Arm → Act Unit
  | [] => Act.setStatus 0
  | .mk patterns body :: rest => do
      if ← fits runner subject patterns then
        match body with
        | .sequence [] => Act.setStatus 0
        | body => runner mode body
      else select runner mode subject rest

/-- Runs commands in turn. Only behind the last one there is nothing left to do. -/
def sequence (runner : Runner) (mode : Mode) : List Command → Act Unit
  | [] => pure ()
  | [last] => runner mode last
  | first :: rest => do
      runner mode.inner first
      sequence runner mode rest

def redirected (runner : Runner) (mode : Mode) (line : Nat) (body : Command)
    (redirects : List Redirect) : Act Unit := do
  Act.modify fun state => { state with line := line }
  let redirections ← Redirection.ofRedirects (outputOf runner) redirects
  let outcome ← Redirection.doAll (outputOf runner) redirections []
  match outcome.stop with
  | none => Act.andThen (runner mode.inner body) (Redirection.restore outcome.kept)
  | some stop =>
      Redirection.restore outcome.kept
      if stop = .fault then Act.setStatus 2 else Act.stop stop

/-! All commands -/

def failing (runner : Runner) (mode : Mode) (act : Act Unit) : Act Unit := do
  act
  checkSignals runner
  checkFailure mode

def command (runner : Runner) (mode : Mode) (whole : Command) : Act Unit :=
  match whole with
  | .simple line assignments words redirects =>
      failing runner mode (simple runner mode line assignments words redirects)
  | .pipeline parts => failing runner mode (pipeline runner mode parts)
  | .subshell line body redirects =>
      failing runner mode (subshell runner mode line body redirects)
  | .background body redirects => background runner mode body redirects
  | .negate body => do
      runner .condition body
      Act.setStatus (if (← Act.get).status = 0 then 1 else 0)
  | .both first second => do
      runner .condition first
      if (← Act.get).status = 0 then runner mode second
  | .either first second => do
      runner .condition first
      if (← Act.get).status ≠ 0 then runner mode second
  | .sequence parts => sequence runner mode parts
  | .branch condition yes no => do
      runner .condition condition
      if (← Act.get).status = 0 then runner mode yes
      else
        Act.setStatus 0
        runner mode no
  | .loop untilTrue condition body => loop runner mode untilTrue condition body loopLimit 0
  | .each line name wordList body => do
      Act.modify fun state => { state with line := line }
      let values ← match wordList with
        | some words => Expand.fields (outputOf runner) words
        | none => pure (← Act.get).arguments
      Act.setStatus 0
      each runner mode name body values
  | .select line word arms => do
      Act.modify fun state => { state with line := line }
      let subject ← Expand.single (outputOf runner) false word
      select runner mode subject arms
  | .define name body => Act.modify fun state => { state with
      functions := (name, body) :: state.functions.filter (·.1 ≠ name), status := 0 }
  | .redirected line body redirects => redirected runner mode line body redirects

def depth : Nat := 1000000

/-- Runs a command with so many steps to go. Signals are answered before it and behind it. -/
def runner : Nat → Runner
  | 0, _, _ => Act.fault "Out of space".toList
  | fuel + 1, mode, whole => do
      if !(← Act.has .noExecution) then
        checkSignals (runner fuel)
        command (runner fuel) mode whole
        checkSignals (runner fuel)

end BatchLaunch.Shell.Evaluate
