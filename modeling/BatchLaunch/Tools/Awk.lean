import BatchLaunch.Tools.Awk.Parse
import BatchLaunch.Tools.Awk.Run

/-!
`awk`: looks for patterns in records, and does what a script asks for with those that fit.
-/
namespace BatchLaunch.Tools

open Host (Action Environment)

namespace Awk

def usage : List String := [
  "Usage: mawk [Options] [Program] [file ...]",
  "",
  "Program:",
  "    The -f option value is the name of a file containing program text.",
  "    If no -f option is given, a \"--\" ends option processing; the following",
  "    parameters are the program text.",
  "",
  "Options:",
  "    -f program-file  Program  text is read from file instead of from the",
  "                     command-line.  Multiple -f options are accepted.",
  "    -F value         sets the field separator, FS, to value.",
  "    -v var=value     assigns value to program variable var.",
  "    --               unambiguous end of options.",
  "",
  "    Implementation-specific options are prefixed with \"-W\".  They can be",
  "    abbreviated:",
  "",
  "    -W version       show version information and exit.",
  "    -W dump          show assembler-like listing of program and exit.",
  "    -W help          show this message and exit.",
  "    -W interactive   set unbuffered output, line-buffered input.",
  "    -W exec file     use file as program as well as last option.",
  "    -W posix_space   do not consider \"\\n\" a space.",
  "    -W random=number set initial random seed.",
  "    -W sprintf=number adjust size of sprintf buffer.",
  "    -W usage         show this message and exit."]

def giveUsage {α : Type} (status : Nat) : Action α := do
  let text := usage.flatMap fun line => line.toList ++ ['\n']
  let _ ← Action.write errors (Text.octetsOf text)
  Action.exit status

def readOptions (name : Chars) : Nat → List Chars → Action (List (Char × Chars) × List Chars)
  | 0, words => pure ([], words)
  | fuel + 1, words =>
      match words with
      | ['-', '-'] :: rest => pure ([], rest)
      | ('-' :: letter :: more) :: rest => do
          if "vFfW".toList.contains letter then
            match more, rest with
            | [], [] => giveUp name ("option -".toList ++ letter :: " lacks argument".toList) 2
            | [], value :: rest =>
                let (given, operands) ← readOptions name fuel rest
                pure ((letter, value) :: given, operands)
            | value, rest =>
                let (given, operands) ← readOptions name fuel rest
                pure ((letter, value) :: given, operands)
          else giveUp name ("not an option: ".toList ++ '-' :: letter :: more) 2
      | words => pure ([], words)

def scriptText (name : Chars) : List Chars → Action Chars
  | [] => pure []
  | file :: rest => do
      match ← slurp file with
      | .error errno =>
          giveUp name ("cannot open ".toList ++ file ++ " (".toList ++ errno.text.toList ++ [')']) 2
      | .ok text =>
          let more ← scriptText name rest
          pure (text ++ (if rest.isEmpty then [] else '\n' :: more))

def assignedBefore (name : Chars) : List (Char × Chars) → Action (List (Name × Value))
  | [] => pure []
  | ('v', word) :: rest =>
      match assigned? word with
      | some found => do
          let more ← assignedBefore name rest
          pure (found :: more)
      | none => giveUp name ("improper assignment: -v ".toList ++ word) 2
  | ('F', value) :: rest => do
      let more ← assignedBefore name rest
      pure (("FS", .text (resolved (value.length + 1) value)) :: more)
  | _ :: rest => assignedBefore name rest

def presetVariables : List (Name × Value) := [
  ("FS", .text [' ']), ("OFS", .text [' ']), ("ORS", .text ['\n']), ("RS", .text ['\n']),
  ("SUBSEP", .text ['\x1c']), ("CONVFMT", .text "%.6g".toList), ("OFMT", .text "%.6g".toList),
  ("NR", .ofInt 0), ("FNR", .ofInt 0), ("RSTART", .ofInt 0), ("RLENGTH", .ofInt (-1)),
  ("FILENAME", .text [])]

def start (name : Chars) (environment : Environment) (operands : List Chars)
    (assigned : List (Name × Value)) (script : Script) (seconds : Nat) : State where
  name := name
  environment := environment
  functions := script.functions
  globals :=
    let known := presetVariables ++ [("ARGC", .ofInt (operands.length + 1))]
    let plain := (known ++ assigned).foldl (fun slots (name, value) =>
      withSlot slots name (.value value)) []
    ("ARGV", .table 0) :: ("ENVIRON", .table 1) :: plain
  locals := []
  tables := #[
    .ofList ((name :: operands).zipIdx.map fun (word, place) => (natChars place, .input word)),
    .ofList (environment.map fun (name, value) =>
      (Text.charsOf name, .input (Text.charsOf value)))]
  whole := .input []
  isStale := false
  fields := #[]
  isCut := true
  main := none
  operand := 1
  hasFile := false
  sources := []
  sinks := [⟨standardOutput, output, [], 0, none⟩]
  ranges := []
  seed := .ofInt seconds
  random := randomFrom seconds
  code := 0

end Awk

open Awk in
def awk : EnvironmentTool := fun environment calledAs words => do
  let name := (calledAs.reverse.takeWhile (· ≠ '/')).reverse
  if words.isEmpty then giveUsage 0
  let (given, operands) ← readOptions name (words.length + 1) words
  let files := (given.filter (·.1 = 'f')).map (·.2)
  if files.isEmpty && operands.isEmpty then giveUsage 2
  let assigned ← assignedBefore name given
  let text ← if files.isEmpty then pure (operands.headD []) else scriptText name files
  let operands := if files.isEmpty then operands.drop 1 else operands
  match readScript text with
  | .error fault =>
      let place := match files.getLast? with
        | some file => file ++ ": ".toList
        | none => []
      giveUp name (place ++ fault) 2
  | .ok script =>
      let seconds ← match ← Action.call .time with
        | .done nanoseconds => pure (nanoseconds / 1000000000)
        | _ => pure 0
      let _ ← runScript script (start name environment operands assigned script seconds)
      pure 0

end BatchLaunch.Tools
