import BatchLaunch.Tools.Starting

/-!
`getopt`: the words of a command line put in order for a script, options first, each with its value.
-/
namespace BatchLaunch.Tools

open Host (Action Environment)

namespace CommandLine

inductive Part where
  | plain (text : Chars)
  | value (text : Chars)
  deriving DecidableEq, Repr

structure Sorted where
  options : List Part
  operands : List Chars
  faults : List Chars

def Sorted.nothing : Sorted := ⟨[], [], []⟩

def Sorted.join (first second : Sorted) : Sorted :=
  ⟨first.options ++ second.options, first.operands ++ second.operands,
    first.faults ++ second.faults⟩

inductive Among where
  | behind
  | ends
  | stays
  deriving DecidableEq, Repr

structure Rules where
  table : OptionTable
  among : Among
  alternative : Bool

/-- The options that letters behind a hyphen are, and whether the last one took the next word. -/
def letters (table : OptionTable) (next : Option Chars) : Chars → Sorted × Bool
  | [] => (.nothing, false)
  | letter :: more =>
      let shown : Part := .plain ['-', letter]
      match table.letterRule? letter, more, next with
      | none, _, _ =>
          let (rest, took) := letters table next more
          (Sorted.join ⟨[], [], ["invalid option -- '".toList ++ [letter, '\x27']]⟩ rest, took)
      | some .never, _, _ =>
          let (rest, took) := letters table next more
          (Sorted.join ⟨[shown], [], []⟩ rest, took)
      | some .attached, _, _ | some .always, _ :: _, _ =>
          (⟨[shown, .value more], [], []⟩, false)
      | some .always, [], some next => (⟨[shown, .value next], [], []⟩, true)
      | some .always, [], none =>
          (⟨[], [], ["option requires an argument -- '".toList ++ [letter, '\x27']]⟩, false)

def ruleFor (table : OptionTable) (key : String) : ValueRule :=
  match table.words.find? fun entry => entry.2 = key with
  | some entry => OptionTable.ruleOf (entry.1.toList.dropWhile (· ≠ ':'))
  | none => .never

def longWord (table : OptionTable) (written : Chars) (next : Option Chars) : Sorted × Bool :=
  match table.longOption written next with
  | .error fault => (⟨[], [], [fault]⟩, false)
  | .ok ((key, value), count) =>
      let shown : Part := .plain ("--".toList ++ key.toList)
      (⟨if ruleFor table key = .never then [shown] else [shown, .value value], [], []⟩, 1 < count)

def sort (rules : Rules) : Nat → List Chars → Sorted
  | 0, words => ⟨[], words, []⟩
  | _, [] => .nothing
  | fuel + 1, word :: rest =>
      let behind (found : Sorted × Bool) : Sorted :=
        found.1.join (sort rules fuel (if found.2 then rest.drop 1 else rest))
      match word with
      | ['-', '-'] => ⟨[], rest, []⟩
      | '-' :: '-' :: written => behind (longWord rules.table written rest.head?)
      | '-' :: letter :: more =>
          let isWord := rules.alternative &&
            (rules.table.word? ((letter :: more).takeWhile (· ≠ '='))).isOk &&
            !(more.isEmpty && (rules.table.letterRule? letter).isSome)
          if isWord then behind (longWord rules.table (letter :: more) rest.head?)
          else behind (letters rules.table rest.head? (letter :: more))
      | _ =>
          match rules.among with
          | .behind => Sorted.join ⟨[], [word], []⟩ (sort rules fuel rest)
          | .ends => ⟨[], word :: rest, []⟩
          | .stays => Sorted.join ⟨[.value word], [], []⟩ (sort rules fuel rest)

inductive Quoting where
  | none
  | sh
  | csh
  deriving DecidableEq, Repr

def Quoting.apply : Quoting → Chars → Chars
  | .none, text => text
  | .sh, text => '\x27' :: text.flatMap (fun c =>
      if c = '\x27' then "'\\''".toList else [c]) ++ ['\x27']
  | .csh, text => '\x27' :: text.flatMap (fun c =>
      match c with
      | '\x27' => "'\\''".toList
      | '\\' => "\\\\".toList
      | '!' => "'\\!'".toList
      | '\n' => "\\n".toList
      | c => if isSpaceChar c then ['\x27', '\\', c, '\x27'] else [c]) ++ ['\x27']

def Sorted.text (sorted : Sorted) (quoting : Quoting) : Chars :=
  (sorted.options.flatMap fun part =>
    match part with
    | .plain text => ' ' :: text
    | .value text => ' ' :: quoting.apply text) ++ " --".toList ++
    (sorted.operands.flatMap fun word => ' ' :: quoting.apply word) ++ ['\n']

def rulesOf (short : Chars) (long : List Chars) (alternative : Bool) : Rules :=
  let (among, rest) : Among × Chars := match short with
    | '+' :: rest => (.ends, rest)
    | '-' :: rest => (.stays, rest)
    | rest => (.behind, rest)
  let words := (long.flatMap fun text =>
    Text.partsAt ',' (text.map fun c => if isSpaceChar c then ',' else c)).filter (!·.isEmpty)
  ⟨⟨String.ofList rest, words.map fun word =>
    (String.ofList word, String.ofList (word.takeWhile (· ≠ ':'))), true⟩, among, alternative⟩

def run (name : Chars) (rules : Rules) (quoting : Quoting) (tells shows : Bool)
    (words : List Chars) : Action Nat := do
  let sorted := sort rules (words.length + 1) words
  if tells then sorted.faults.forM fun fault => complain name fault
  if shows then
    let _ ← put (sorted.text quoting)
  pure (if sorted.faults.isEmpty then 0 else 1)

end CommandLine

open BatchLaunch.Tools.CommandLine in
def getopt : EnvironmentTool := fun environment name words => do
  let compatible := (valueOf? environment "GETOPT_COMPATIBLE").isSome
  match words with
  | [] =>
      if compatible then
        let _ ← put " --\n".toList
        pure 0
      else giveUpUse name "missing optstring argument".toList 2
  | first :: rest =>
      if compatible || first.head? ≠ some '-' then
        run name (rulesOf (first.dropWhile fun c => c = '-' || c = '+') [] false) .none true true rest
      else
        match (⟨"ao:l:n:qQs:TuhV", [("options:", "o"), ("longoptions:", "l"), ("quiet", "q"),
            ("quiet-output", "Q"), ("shell:", "s"), ("test", "T"), ("unquoted", "u"),
            ("alternative", "a"), ("name:", "n"), ("version", "V")], false⟩ : OptionTable).read
            (words.length + 1) words with
        | .error fault => giveUpUse name fault 2
        | .ok asked =>
            let quoting ← match asked.value? "s" with
              | none => pure Quoting.sh
              | some text =>
                  if ["sh".toList, "bash".toList].contains text then pure Quoting.sh
                  else if ["csh".toList, "tcsh".toList].contains text then pure Quoting.csh
                  else giveUpUse name "unknown shell after -s or --shell argument".toList 2
            if asked.has "T" then pure 4
            else
              let (short, operands) ← match asked.value? "o", asked.operands with
                | some short, operands => pure (short, operands)
                | none, short :: operands => pure (short, operands)
                | none, [] => giveUpUse name "missing optstring argument".toList 2
              run ((asked.value? "n").getD name)
                (rulesOf short (asked.values "l") (asked.has "a"))
                (if asked.has "u" then .none else quoting) (!asked.has "q") (!asked.has "Q") operands

end BatchLaunch.Tools
