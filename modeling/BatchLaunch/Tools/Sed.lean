import BatchLaunch.Tools.Mode
import BatchLaunch.Tools.Sed.Run

/-!
`sed`: edits the lines of files after a script.
-/
namespace BatchLaunch.Tools

open Host (Action Call Reply Errno Descriptor)

namespace Sed

structure Part where
  file : Option Chars
  text : Chars

def optionTable : OptionTable :=
  ⟨"bsnrzuEe:f:l:i::V:h", [("binary", "b"), ("regexp-extended", "E"), ("in-place::", "i"),
    ("debug", "debug"), ("expression:", "e"), ("file:", "f"), ("line-length:", "l"),
    ("null-data", "z"), ("zero-terminated", "z"), ("quiet", "n"), ("posix", "p"), ("silent", "n"),
    ("sandbox", "sandbox"), ("separate", "s"), ("unbuffered", "u"),
    ("follow-symlinks", "F")], true⟩

def usage : String :=
  "Usage: sed [OPTION]... \x7bscript-only-if-no-other-script\x7d [input-file]...\n"

def giveUpUsage {α : Type} : Action α := do
  let _ ← Action.write errors (Text.octetsOf usage.toList)
  Action.exit 1

def partsFor (name : Chars) : List (String × Chars) → Action (List Part)
  | [] => pure []
  | (key, value) :: rest => do
      if key = "e" then
        let more ← partsFor name rest
        pure (⟨none, value⟩ :: more)
      else if key = "f" then
        match ← slurp value with
        | .ok text =>
            let more ← partsFor name rest
            pure (⟨some value, if text.getLast? = some '\n' then text.dropLast else text⟩ :: more)
        | .error errno =>
            giveUp name ("couldn't open file ".toList ++ value ++ ": ".toList ++
              errno.text.toList) 4
      else partsFor name rest

def placeText (parts : List Part) (place : Nat) : Chars :=
  let rec go (number start : Nat) : List Part → Chars
    | [] => []
    | part :: rest =>
        let length := part.text.length
        let number := if part.file.isNone then number + 1 else number
        if place ≤ start + length || rest.isEmpty then
          let within := min length (place - start)
          match part.file with
          | some file =>
              let lines := ((part.text.take within).filter (· = '\n')).length + 1
              "file ".toList ++ file ++ " line ".toList ++ natChars lines
          | none =>
              "-e expression #".toList ++ natChars number ++ ", char ".toList ++
                natChars (if place = 0 then 0 else within)
        else go number (start + length + 1) rest
  go 0 0 parts

def targets (script : Array Command) : List Chars :=
  (script.toList.filterMap fun command =>
    match command.deed with
    | .writeFile file | .writeFirst file => some file
    | .substitute substitution => substitution.target
    | _ => none).eraseDups.filter (· ≠ "/dev/stdout".toList)

def openSinks (name : Chars) : List Chars → Action (List Sink)
  | [] => pure []
  | file :: rest => do
      if file = "/dev/stderr".toList then
        let more ← openSinks name rest
        pure (⟨file, errors, false⟩ :: more)
      else
        match ← Action.call (.open (path file) .write) with
        | .done descriptor =>
            let more ← openSinks name rest
            pure (⟨file, descriptor, false⟩ :: more)
        | .refused errno =>
            giveUp name ("couldn't open file ".toList ++ file ++ ": ".toList ++
              errno.text.toList) 4
        | _ => openSinks name rest

def keptName (file suffix : Chars) : Chars :=
  let base := (file.reverse.takeWhile (· ≠ '/')).reverse
  let dir := file.take (file.length - base.length)
  if suffix.contains '*' then
    let name := suffix.flatMap fun c => if c = '*' then base else [c]
    if name.contains '/' then name else dir ++ name
  else file ++ suffix

def replaceFile (name file suffix contents : Chars) (mode : Nat) : Action Unit := do
  let removed ← if suffix.isEmpty then Action.call (.remove (path file))
    else Action.call (.rename (path file) (path (keptName file suffix)))
  match removed with
  | .refused errno =>
      giveUp name ("couldn't open temporary file ./sedXXXXXX: ".toList ++ errno.text.toList) 4
  | _ =>
      match ← Action.call (.open (path file) .write) with
      | .done descriptor => do
          let _ ← Action.write descriptor (Text.octetsOf contents)
          let _ ← Action.call (.close descriptor)
          let _ ← Action.call (.setMode (path file) mode)
          pure ()
      | _ => pure ()

/-- Edits each of some files by itself. The answer tells whether the script asks to stop. -/
def separately (inPlace : Option Chars) (first : Machine) : List Chars → Action (Option Nat × Machine)
  | [] => pure (none, first)
  | file :: rest => do
      let start : Machine := { first with
        files := [file], current := none, buffer := [], line := 0
        ranges := startRanges first.script, closed := [], keeps := inPlace.isSome }
      let looked ← infoAt file true
      let regular := match looked with
        | .ok info => info.kind = .file
        | .error _ => true
      if inPlace.isSome && !regular then do
        complain first.name ("couldn't edit ".toList ++ file ++ ": not a regular file".toList)
        separately inPlace { first with status := 4 } rest
      else
        let (code, machine) ← (cycles blockLimit false).run start
        let machine ← match inPlace, looked with
          | some suffix, .ok info =>
              if info.grants 4 then do
                replaceFile machine.name file suffix machine.output.reverse.flatten info.mode
                pure { machine with output := [], outputSize := 0, unended := false }
              else pure machine
          | _, _ => pure machine
        match code with
        | some code => pure (some code, machine)
        | none => separately inPlace machine rest

end Sed

open Sed in
def sed : Tool := fun name words =>
  match optionTable.read (words.length + 1) words with
  | .error fault => do
      complain name fault
      giveUpUsage
  | .ok asked => do
      let given := asked.has "e" || asked.has "f"
      if !given && asked.operands.isEmpty then giveUpUsage
      let parts ← if given then partsFor name asked.given
        else pure [⟨none, asked.operands.headD []⟩]
      let files := if given then asked.operands else asked.operands.drop 1
      let files := if files.isEmpty then [['-']] else files
      let text := join ['\n'] (parts.map (·.text))
      let silent := asked.has "n" || text = "#n".toList || "#n\n".toList.isPrefixOf text
      match read (asked.has "E" || asked.has "r") text with
      | .fault (place, message) =>
          giveUp name (placeText parts place ++ ": ".toList ++ message) 1
      | .noLabel label =>
          giveUp name ("can't find label for jump to \x60".toList ++ label ++ ['\x27']) 4
      | .script script => do
          let sinks ← openSinks name (targets script)
          let machine : Sed.Machine := {
            name := name, script := script, silent := silent
            delimiter := if asked.has "z" then '\x00' else '\n'
            width := ((asked.value? "l").bind natural?).getD 70
            files := files, current := none, file := ['-'], buffer := [], output := []
            outputSize := 0, keeps := false, unended := false, sinks := sinks, lineFiles := []
            pattern := [], hold := [], ended := true, line := 0, queue := []
            ranges := startRanges script, closed := [], changed := false, lastMatcher := none
            status := 0 }
          let (code, machine) ←
            if asked.has "i" || asked.has "s" then
              separately (asked.value? "i") machine files
            else (cycles patience false).run machine
          let _ ← flush.run { machine with keeps := false }
          -- what was read of the input but is not used is left to others
          if machine.file = ['-'] then
            let _ ← Action.call (.rewind 0 machine.buffer.length)
          if (← Action.call (.rewind output 0)) = .refused .badFile then
            giveUp name "couldn't close stdout: Bad file descriptor".toList 4
          match code with
          | some code => pure (if code = 0 then machine.status else code)
          | none => pure machine.status

end BatchLaunch.Tools
