import BatchLaunch.Host.Image
import BatchLaunch.Tools.Clock
import BatchLaunch.Tools.Signals

/-!
Programs that start others, with other variables, in another place, or for a limited time.
-/
namespace BatchLaunch.Tools

open Host (Action Call Reply Errno Environment Pid Signal)

abbrev EnvironmentTool := Environment → Tool

def valueOf? (environment : Environment) (name : String) : Option Chars :=
  (environment.lookup (Text.Utf8.encode name)).map Text.charsOf

def becomeFirst (args : List Octets) (environment : Environment) (worst : Errno) :
    List String → Action Errno
  | [] => pure worst
  | path :: rest => do
      let attempt (path : Octets) (args : List Octets) : Action Errno :=
        Action.become path args environment
      let errno ← match ← attempt (Text.Utf8.encode path) args with
        | .notExecutable =>
            attempt (Text.Utf8.encode Host.Image.shellPath)
              (Text.Utf8.encode Host.Image.shellPath :: Text.Utf8.encode path :: args.drop 1)
        | errno => pure errno
      becomeFirst args environment (if errno = .noEntry then worst else errno) rest

/-- Becomes the program that words name, looked for on the search path; it comes back only with the
reason why that cannot be. -/
def becomeProgram (environment : Environment) (words : List Chars) : Action Errno := do
  match words with
  | [] => pure .noEntry
  | program :: _ =>
      if program.isEmpty then pure .noEntry
      else
        let searchPath := (environment.lookup (Text.Utf8.encode "PATH")).map Text.Utf8.decodeLossy
        becomeFirst (words.map path) environment .noEntry
          (Host.Image.candidates searchPath (Text.Utf8.decodeLossy (path program)))

def failureStatus (errno : Errno) : Nat := if errno = .noEntry then 127 else 126

def startOr (name before : Chars) (environment : Environment) (words : List Chars) :
    Action Nat := do
  let errno ← becomeProgram environment words
  complain name (before ++ quoted (words.headD []) ++ ": ".toList ++ errno.text.toList)
  pure (failureStatus errno)

def waitOut (child : Pid) : Nat → Action (Option Status)
  | 0 => pure none
  | fuel + 1 => do
      match ← Action.call (.wait (some child)) with
      | .ended _ status => pure (some status)
      | .refused .interrupted => waitOut child fuel
      | _ => pure none

def withhold (descriptor : Host.Descriptor) : Action Host.Descriptor := do
  match ← Action.call (.save descriptor Host.firstPrivate) with
  | .done copy => do
      let _ ← Action.call (.close descriptor)
      pure copy
  | _ => pure descriptor

def runChild (environment : Environment) (prepare : Action Unit) (words : List Chars) :
    Action (Except Errno Status) := do
  match ← Action.call .pipe with
  | .descriptors source target => do
      let source ← withhold source
      let target ← withhold target
      let child ← Action.fork do
        prepare
        let errno ← becomeProgram environment words
        let _ ← Action.write target [if errno = .noEntry then 127 else 126]
        pure (failureStatus errno)
      let _ ← Action.call (.close target)
      let failed ← Action.call (.read source 1)
      let _ ← Action.call (.close source)
      let status ← waitOut child 100000
      match failed with
      | .octets [code] => pure (.error (if code = 127 then .noEntry else .denied))
      | _ => pure (.ok (status.getD (.exited 0)))
  | _ => pure (.error .badFile)

def forgetInput : Action Unit := do
  match ← Action.call (.open (path "/dev/null".toList) .read) with
  | .done descriptor =>
      if descriptor ≠ 0 then
        let _ ← Action.call (.duplicate descriptor 0)
        let _ ← Action.call (.close descriptor)
      pure ()
  | _ => pure ()

/-! Variables -/

def assignment? (word : Chars) : Option (Octets × Octets) :=
  match word.dropWhile (· ≠ '=') with
  | '=' :: value =>
      some (Text.octetsOf (word.takeWhile (· ≠ '=')), Text.octetsOf value)
  | _ => none

def withVariable (environment : Environment) (name value : Octets) : Environment :=
  if environment.any (·.1 = name) then
    environment.map fun entry => if entry.1 = name then (name, value) else entry
  else environment ++ [(name, value)]

def environmentText (ending : Char) (environment : Environment) : Chars :=
  environment.flatMap fun (name, value) =>
    Text.charsOf name ++ '=' :: Text.charsOf value ++ [ending]

def splitWords (environment : Environment) (text : Chars) : Except Chars (List Chars) :=
  go (text.length + 1) text none none
where
  finish (word : Option Chars) (rest : Except Chars (List Chars)) : Except Chars (List Chars) :=
    match word with
    | some word => rest.map (word.reverse :: ·)
    | none => rest
  go : Nat → Chars → Option Chars → Option Char → Except Chars (List Chars)
    | 0, _, _, _ => .ok []
    | _, [], word, quote =>
        if quote.isSome then .error "no terminating quote in -S string".toList
        else finish word (.ok [])
    | fuel + 1, c :: rest, word, quote =>
        let add (c : Char) : Option Chars := some (c :: word.getD [])
        if (c = '\x27' || c = '"') && quote = some c then go fuel rest word none
        else if (c = '\x27' || c = '"') && quote.isNone then
          go fuel rest (some (word.getD [])) (some c)
        else if isSpaceChar c && quote.isNone then finish word (go fuel rest none none)
        else if c = '#' && quote.isNone && word.isNone then .ok []
        else if c = '\\' && (quote ≠ some '\x27' || rest.head? = some '\\' ||
            rest.head? = some '\x27') then
          match rest with
          | [] => .error "invalid backslash at end of string in -S".toList
          | '_' :: more =>
              if quote = some '"' then go fuel more (add ' ') quote
              else finish word (go fuel more none none)
          | 'c' :: _ =>
              if quote = some '"' then
                .error "'\\c' must not appear in double-quoted -S string".toList
              else finish word (.ok [])
          | escape :: more =>
              match escapeLetter? escape with
              | some c => go fuel more (add c) quote
              | none => .error ("invalid sequence '\\".toList ++ [escape] ++ "' in -S".toList)
        else if c = '$' && quote ≠ some '\x27' then
          match rest with
          | '{' :: more =>
              let name := more.takeWhile fun c => c.isAlphanum || c = '_'
              match more.drop name.length with
              | '}' :: behind =>
                  if name.isEmpty || name.head?.any Char.isDigit then unsupported (c :: rest)
                  else
                    match valueOf? environment (String.ofList name) with
                    | some value => go fuel behind (some (value.reverse ++ word.getD [])) quote
                    | none => go fuel behind word quote
              | _ => unsupported (c :: rest)
          | _ => unsupported (c :: rest)
        else go fuel rest (add c) quote
  unsupported (text : Chars) : Except Chars (List Chars) :=
    .error ("only $\x7bVARNAME\x7d expansion is supported, error at: ".toList ++ text)
  escapeLetter? : Char → Option Char
    | '"' => some '"'
    | '#' => some '#'
    | '$' => some '$'
    | '\x27' => some '\x27'
    | '\\' => some '\\'
    | 'f' => some '\x0c'
    | 'n' => some '\n'
    | 'r' => some '\r'
    | 't' => some '\t'
    | 'v' => some '\x0b'
    | _ => none

def splitOption? : List Chars → Option (Chars × Chars × List Chars)
  | ('-' :: 'S' :: text) :: rest => some ([], text, rest)
  | ('-' :: 'v' :: 'S' :: text) :: rest => some ("-v".toList, text, rest)
  | ('-' :: 'i' :: 'S' :: text) :: rest => some ("-i".toList, text, rest)
  | word :: rest =>
      if "--split-string=".toList.isPrefixOf word then some ([], word.drop 15, rest) else none
  | [] => none

def withSplit (environment : Environment) : Nat → List Chars → Except Chars (List Chars)
  | 0, words => .ok words
  | fuel + 1, words =>
      match splitOption? words with
      | some (before, text, rest) =>
          let (text, rest) := if text.isEmpty then (rest.headD [], rest.drop 1) else (text, rest)
          (splitWords environment text).bind fun found =>
            withSplit environment fuel
              ((if before.isEmpty then [] else [before]) ++ found ++ rest)
      | none =>
          match words with
          | ('-' :: c :: letters) :: rest =>
              if c = '-' && letters.isEmpty then .ok words
              else if (c = 'u' || c = 'C') && letters.isEmpty then
                (withSplit environment fuel (rest.drop 1)).map fun more =>
                  ('-' :: c :: letters) :: (rest.take 1 ++ more)
              else (withSplit environment fuel rest).map (('-' :: c :: letters) :: ·)
          | _ => .ok words

def envOptions : OptionTable :=
  ⟨"C:iS:u:v0", [("block-signal::", "block"), ("chdir:", "C"), ("debug", "v"),
    ("default-signal::", "default"), ("ignore-environment", "i"), ("ignore-signal::", "ignore"),
    ("list-signal-handling", "list"), ("null", "0"), ("split-string:", "S"), ("unset:", "u")], false⟩

def env : EnvironmentTool := fun environment name words => do
  match withSplit environment (words.length + 20) words with
  | .error fault => giveUp name fault 125
  | .ok words =>
      withOptions envOptions 125 (fun name asked => do
        let operands := if asked.operands.head? = some ['-'] then asked.operands.drop 1
          else asked.operands
        let cleared := asked.has "i" || operands.length < asked.operands.length
        let start := if cleared then [] else environment
        match (asked.values "u").find? fun word => word.isEmpty || word.contains '=' with
        | some bad =>
            giveUp name ("cannot unset ".toList ++ quoted bad ++ ": Invalid argument".toList) 125
        | none => pure ()
        let kept := start.filter fun entry => !(asked.values "u").contains (Text.charsOf entry.1)
        let assigned := operands.takeWhile fun word => word.contains '='
        let changed := (assigned.filterMap assignment?).foldl
          (fun environment (name, value) => withVariable environment name value) kept
        let command := operands.drop assigned.length
        if command.isEmpty then
          if asked.has "C" then
            giveUpUse name "must specify command with --chdir (-C)".toList 125
          let _ ← put (environmentText (if asked.has "0" then '\x00' else '\n') changed)
          pure 0
        else
          if asked.has "0" then
            giveUpUse name "cannot specify --null (-0) with command".toList 125
          match asked.value? "C" with
          | none => pure ()
          | some dir =>
              match ← Action.call (.changeDir (path dir)) with
              | .refused errno =>
                  giveUp name ("cannot change directory to ".toList ++ quoted dir ++ ": ".toList ++
                    errno.text.toList) 125
              | _ => pure ()
          let status ← startOr name [] changed command
          if status = 127 && (command.headD []).any isSpaceChar then
            complain name "use -[v]S to pass options in shebang lines".toList
          pure status) name words

def printenv : EnvironmentTool := fun environment =>
  withOptions ⟨"0", [("null", "0")], false⟩ 2 fun _ asked => do
    let ending := if asked.has "0" then '\x00' else '\n'
    if asked.operands.isEmpty then
      let _ ← put (environmentText ending environment)
      pure 0
    else
      forEach asked.operands fun word => do
        match if word.contains '=' then none else valueOf? environment (String.ofList word) with
        | some value => put (value ++ [ending])
        | none => pure false

/-! Priority, signals, sessions -/

def adjustmentWord? : Chars → Option Chars
  | '-' :: c :: rest =>
      let digit := if c = '-' || c = '+' then rest.head? else some c
      if digit.any Char.isDigit then some (c :: rest) else none
  | _ => none

def niceWords : Nat → List Chars → Except Chars (Option Chars × List Chars)
  | 0, words => .ok (none, words)
  | _, [] => .ok (none, [])
  | fuel + 1, word :: rest =>
      let later (given : Chars) (result : Except Chars (Option Chars × List Chars)) :
          Except Chars (Option Chars × List Chars) :=
        result.map fun (last, words) => (some (last.getD given), words)
      match adjustmentWord? word with
      | some given => later given (niceWords fuel rest)
      | none =>
          match word with
          | ['-', '-'] => .ok (none, rest)
          | '-' :: '-' :: _ | '-' :: _ :: _ =>
              match (⟨"n:", [("adjustment:", "n")], false⟩ : OptionTable).read 2
                  (word :: rest.take 1) with
              | .ok asked =>
                  let used := if word.length = 2 || !word.contains '=' && word.take 2 = ['-', '-']
                    then 1 else 0
                  later ((asked.value? "n").getD []) (niceWords fuel (rest.drop used))
              | .error fault => .error fault
          | _ => .ok (none, word :: rest)

def nice : EnvironmentTool := fun environment name words => do
  match niceWords (words.length + 1) words with
  | .error fault => giveUpUse name fault 125
  | .ok (given, command) => do
      match given with
      | some text =>
          if (integer? (text.dropWhile isSpaceChar)).isNone then
            giveUp name ("invalid adjustment ".toList ++ quoted text) 125
      | none => pure ()
      if command.isEmpty then
        if given.isSome then
          giveUpUse name "a command must be given with an adjustment".toList 125
        else
          let _ ← put "0\n".toList
          pure 0
      else
        if given.any fun text => (integer? text).any (· < 0) then
          complain name "cannot set niceness: Permission denied".toList
        startOr name [] environment command

def startCarefully (name before : Chars) (environment : Environment) (words : List Chars) :
    Action Nat := do
  let errno ← becomeProgram environment words
  complain name (before ++ shellQuoted (words.headD []) ++ ": ".toList ++ errno.text.toList)
  pure (failureStatus errno)

def hangup : Signal := 1

def nohup : EnvironmentTool := fun environment =>
  withOptions ⟨"", [], false⟩ 125 fun name asked => do
    needOperand name asked 125
    let _ ← Action.call (.setDisposition hangup .ignored)
    startCarefully name "failed to run command ".toList environment asked.operands

/-- Becomes a program; its name is not quoted in the complaint that it cannot. -/
def startPlainly (name before : Chars) (environment : Environment) (words : List Chars) :
    Action Nat := do
  let errno ← becomeProgram environment words
  complain name (before ++ words.headD [] ++ ": ".toList ++ errno.text.toList)
  pure (failureStatus errno)

def passOn : Status → Nat
  | .exited code => code.toNat
  | .signalled signal => 128 + signal.toNat

def setsid : EnvironmentTool := fun environment =>
  withOptions ⟨"cfwVh", [("ctty", "c"), ("fork", "f"), ("wait", "w")], false⟩ 1 fun name asked => do
    if asked.operands.isEmpty then giveUpUse name "no command specified".toList 1
    let go : Action Nat := do
      let _ ← Action.call (.lead true)
      startPlainly name "failed to execute ".toList environment asked.operands
    match asked.has "f", ← Action.call (.lead true) with
    | false, .done _ =>
        startPlainly name "failed to execute ".toList environment asked.operands
    | _, _ =>
        let child ← Action.fork go
        if asked.has "w" then
          let status ← waitOut child 100000
          pure (status.elim 0 passOn)
        else pure 0

def stdbuf : EnvironmentTool := fun environment =>
  withOptions ⟨"e:i:o:", [("error:", "e"), ("input:", "i"), ("output:", "o")], false⟩ 125
    fun name asked => do
      let isMode (text : Chars) : Bool :=
        text = ['L'] || match amount? "EGkKMPTYZ0" text with
          | .ok _ => true
          | .error _ => false
      match asked.given.find? fun entry => !isMode entry.2 with
      | some (_, bad) => giveUp name ("invalid mode ".toList ++ quoted bad) 125
      | none => pure ()
      needOperand name asked 125
      if asked.given.isEmpty then
        giveUpUse name "you must specify a buffering mode option".toList 125
      startOr name "failed to run command ".toList environment asked.operands

/-! Limited time -/

def signalWord? (word : Chars) : Option Signal :=
  let upper := word.map Char.toUpper
  signal? (if "SIG".toList.isPrefixOf upper then upper.drop 3 else word)

def killSignal : Signal := 9

structure Bound where
  name : Chars
  command : Chars
  foreground : Bool
  tells : Bool
  keepsStatus : Bool
  child : Pid

namespace Bound

def send (bound : Bound) (signal : Signal) : Action Unit := do
  let _ ← Action.call (.kill bound.child signal)
  if !bound.foreground then
    if signal ≠ killSignal then
      let _ ← Action.call (.setDisposition signal .ignored)
    let _ ← Action.call (.kill 0 signal)
  pure ()

def tell (bound : Bound) (signal : Signal) : Action Unit :=
  if bound.tells then
    complain bound.name ("sending signal ".toList ++ signalName signal ++ " to command ".toList ++
      quoted bound.command)
  else pure ()

def timer (microseconds : Nat) : Action Pid := Action.fork do
  let _ ← Action.call (.lead false)
  let _ ← Action.call (.sleep microseconds)
  pure 0

def await (bound : Bound) (clock : Option Pid) (late : Bool) (next : List (Nat × Signal))
    (signal : Signal) : Nat → Action Nat
  | 0 => pure 125
  | fuel + 1 => do
      match ← Action.call (.wait none) with
      | .ended pid status =>
          if pid = bound.child then
            match clock with
            | some timer =>
                let _ ← Action.call (.kill timer killSignal)
            | none => pure ()
            match status with
            | .exited code => pure (if late && !bound.keepsStatus then 124 else code.toNat)
            | .signalled number =>
                let number := number.toNat
                if !late then
                  let _ ← Action.call (.setDisposition number .normal)
                  match ← Action.call .pid with
                  | .done self =>
                      let _ ← Action.call (.kill self number)
                      pure (128 + number)
                  | _ => pure (128 + number)
                else
                  pure (if bound.keepsStatus || number = killSignal then 128 + number else 124)
          else if clock = some pid then
            bound.tell signal
            match next with
            | (time, following) :: rest =>
                let clock ← timer time
                bound.send signal
                await bound (some clock) true rest following fuel
            | [] =>
                bound.send signal
                await bound none true [] signal fuel
          else await bound clock late next signal fuel
      | .refused .interrupted => do
          match ← Action.call .takeSignals with
          | .signals (first :: _) => bound.send first
          | _ => pure ()
          await bound clock late next signal fuel
      | _ => pure 125

end Bound

def passedSignals : List Signal := [1, 2, 3, 15]

def timeoutOptions : OptionTable :=
  ⟨"k:s:v", [("foreground", "foreground"), ("kill-after:", "k"), ("preserve-status", "keep"),
    ("signal:", "s"), ("verbose", "v")], false⟩

def timeout : EnvironmentTool := fun environment =>
  withOptions timeoutOptions 125 fun name asked => do
    let durationOf (text : Chars) : Action Nat :=
      match duration? text with
      | some time => pure time
      | none => giveUpUse name ("invalid time interval ".toList ++ quoted text) 125
    let later ← match asked.value? "k" with
      | some text => do
          let time ← durationOf text
          pure [(time, killSignal)]
      | none => pure []
    let signal ← match asked.value? "s" with
      | none => pure terminate
      | some word =>
          match signalWord? word with
          | some signal => pure signal
          | none => giveUpUse name (quoted word ++ ": invalid signal".toList) 125
    match asked.operands with
    | time :: program :: args => do
        let time ← durationOf time
        if !asked.has "foreground" then
          let _ ← Action.call (.lead false)
        let child ← Action.fork
          (startOr name "failed to run command ".toList environment (program :: args))
        let _ ← passedSignals.foldlM (fun _ signal => do
          let _ ← Action.call (.setDisposition signal .caught)
          pure ()) ()
        let bound : Bound :=
          ⟨name, program, asked.has "foreground", asked.has "v", asked.has "keep", child⟩
        let clock ← if time = 0 then pure none
          else do
            let pid ← Bound.timer time
            pure (some pid)
        bound.await clock false (later.filter fun entry => 0 < entry.1) signal 100000
    | _ =>
        complainOfHelp name
        pure 125

end BatchLaunch.Tools
