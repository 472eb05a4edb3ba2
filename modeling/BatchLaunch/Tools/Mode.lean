import BatchLaunch.Tools.Names

/-!
Modes: what the owner of a file, its group and all others may do with it. They are given as numbers
in base eight, or as changes to what there is.
-/
namespace BatchLaunch.Tools

open Host (Action Call Reply Errno Info)

def octal? (text : Chars) : Option Nat :=
  if text.isEmpty || !text.all (fun c => '0' ≤ c && c ≤ '7') then none
  else some (text.foldl (fun n c => n * 8 + (c.toNat - '0'.toNat)) 0)

namespace Mode

def all : Nat := 0o7777

def without (mode bits : Nat) : Nat := mode &&& (all - (bits &&& all))

inductive Operator where
  | add
  | take
  | assign
  deriving DecidableEq, Repr

inductive Source where
  | bits (value : Nat)
  | bitsOrSearch (value : Nat)
  | copy (bits : Nat)
  deriving DecidableEq, Repr

structure Change where
  operator : Operator
  affected : Nat
  source : Source
  mentioned : Nat
  deriving DecidableEq, Repr

def whoBits : Char → Option Nat
  | 'u' => some 0o4700
  | 'g' => some 0o2070
  | 'o' => some 0o1007
  | 'a' => some all
  | _ => none

def operator? : Char → Option Operator
  | '+' => some .add
  | '-' => some .take
  | '=' => some .assign
  | _ => none

def permission? : Char → Option Nat
  | 'r' => some 0o444
  | 'w' => some 0o222
  | 'x' => some 0o111
  | 's' => some 0o6000
  | 't' => some 0o1000
  | _ => none

def sourceOf (text : Chars) : Option (Source × Nat × Chars) :=
  let digits := text.takeWhile fun c => '0' ≤ c && c ≤ '7'
  if !digits.isEmpty then
    (octal? digits).bind fun value =>
      if value ≤ all then some (.bits value, all, text.drop digits.length) else none
  else
    match text with
    | 'u' :: rest => some (.copy 0o700, 0o777, rest)
    | 'g' :: rest => some (.copy 0o070, 0o777, rest)
    | 'o' :: rest => some (.copy 0o007, 0o777, rest)
    | _ =>
        let letters := text.takeWhile fun c => "rwxXst".toList.contains c
        let value := letters.foldl (fun bits c => bits ||| (permission? c).getD 0) 0
        let source := if letters.contains 'X' then Source.bitsOrSearch value else .bits value
        some (source, value, text.drop letters.length)

def changesFor (affected : Nat) : Nat → Chars → Option (List Change × Chars)
  | 0, _ => none
  | fuel + 1, text =>
      match text with
      | [] => some ([], [])
      | ',' :: rest => some ([], rest)
      | c :: rest =>
          (operator? c).bind fun operator =>
            (sourceOf rest).bind fun (source, value, rest) =>
              let mentioned := if affected = 0 then value else affected &&& value
              (changesFor affected fuel rest).map fun (more, rest) =>
                (⟨operator, affected, source, mentioned⟩ :: more, rest)

def clauses : Nat → Chars → Option (List Change)
  | 0, _ => none
  | fuel + 1, text =>
      let who := text.takeWhile fun c => (whoBits c).isSome
      let affected := who.foldl (fun bits c => bits ||| (whoBits c).getD 0) 0
      let behind := text.drop who.length
      if behind.head?.any fun c => (operator? c).isSome then
        (changesFor affected (behind.length + 1) behind).bind fun (found, rest) =>
          let more := if rest.isEmpty then
              (if behind.getLast? = some ',' then none else some [])
            else clauses fuel rest
          more.map (found ++ ·)
      else none

def parse? (text : Chars) : Option (List Change) :=
  match octal? text with
  | some value =>
      if all < value then none
      else
        let mentioned := if text.length < 5 then (value &&& 0o7000) ||| 0o777 else all
        some [⟨.assign, all, .bits value, mentioned⟩]
  | none => if text.isEmpty then none else clauses (text.length + 1) text

def spread (bits : Nat) : Nat :=
  [0o444, 0o222, 0o111].foldl (fun found kind =>
    if bits &&& kind = 0 then found else found ||| kind) 0

/-- A mode after one change. Those who have nothing given to them by name get what the mask leaves,
and directories keep the marks that are not spoken of. -/
def change (isDirectory : Bool) (mask : Nat) (mode : Nat) (asked : Change) : Nat :=
  let kept := if isDirectory then without 0o6000 asked.mentioned else 0
  let value := match asked.source with
    | .bits value => value
    | .bitsOrSearch value =>
        if isDirectory || mode &&& 0o111 ≠ 0 then value ||| 0o111 else value
    | .copy bits => spread (mode &&& bits)
  let meant := if asked.affected = 0 then all - (mask &&& all) else asked.affected
  let value := without (value &&& meant) kept
  match asked.operator with
  | .add => mode ||| value
  | .take => without mode value
  | .assign =>
      let preserved := (if asked.affected = 0 then 0 else all - asked.affected) ||| kept
      (mode &&& preserved) ||| value

def adjust (isDirectory : Bool) (mask : Nat) (changes : List Change) (mode : Nat) : Nat :=
  changes.foldl (change isDirectory mask) mode

def triple (bits : Nat) (marked : Bool) (mark : Char) : Chars :=
  [if bits &&& 4 ≠ 0 then 'r' else '-', if bits &&& 2 ≠ 0 then 'w' else '-',
    if marked then (if bits &&& 1 ≠ 0 then mark else mark.toUpper)
    else if bits &&& 1 ≠ 0 then 'x' else '-']

def letters (mode : Nat) : Chars :=
  triple (mode / 64) (mode &&& 0o4000 ≠ 0) 's' ++ triple (mode / 8) (mode &&& 0o2000 ≠ 0) 's' ++
    triple mode (mode &&& 0o1000 ≠ 0) 't'

def digits (mode : Nat) : Chars := Nat.toDigits 8 mode

def fourDigits (mode : Nat) : Chars :=
  let found := digits mode
  List.replicate (4 - found.length) '0' ++ found

end Mode

def kindLetter : Host.Kind → Char
  | .file => '-'
  | .directory => 'd'
  | .link => 'l'
  | .device => 'c'
  | .pipe => 'p'

def currentMask : Action Nat := do
  match ← Action.call (.mask none) with
  | .done bits => pure bits
  | _ => pure 0o022

def namesIn (dir : Chars) : Action (Except Errno (List Chars)) := do
  match ← Action.call (.list (path dir)) with
  | .names names => pure (.ok (names.map Text.charsOf))
  | .refused errno => pure (.error errno)
  | _ => pure (.error .invalid)

def infoAt (word : Chars) (follow : Bool) : Action (Except Errno Info) := do
  match ← Action.call (.info (path word) follow) with
  | .info info => pure (.ok info)
  | .refused errno => pure (.error errno)
  | _ => pure (.error .invalid)

def deepest : Nat := 300

def isModeWord : Chars → Bool
  | '-' :: c :: _ => "rwxXstugoa,+=01234567".toList.contains c
  | _ => false

structure ModeReport where
  changes : Bool
  all : Bool
  quiet : Bool

def modeStory (file : Chars) (old new : Nat) : Chars :=
  let shown (mode : Nat) : Chars := Mode.fourDigits mode ++ " (".toList ++ Mode.letters mode ++ [')']
  if old = new then
    "mode of ".toList ++ shellQuoted file ++ " retained as ".toList ++ shown old ++ ['\n']
  else
    "mode of ".toList ++ shellQuoted file ++ " changed from ".toList ++ shown old ++ " to ".toList ++
      shown new ++ ['\n']

/-- Changes the mode of one file, and says so if that is asked for. The mask keeps a change without
a name from taking all away, which is pointed out if it was meant as an option. -/
def changeMode (name : Chars) (report : ModeReport) (changes : List Mode.Change) (mask : Nat)
    (asOption : Bool) (file : Chars) (info : Info) : Action Bool := do
  let isDirectory := info.kind = .directory
  let mode := Mode.adjust isDirectory mask changes info.mode
  match ← Action.call (.setMode (path file) mode) with
  | .refused errno =>
      if !report.quiet then
        complain name ("changing permissions of ".toList ++ shellQuoted file ++ ": ".toList ++
          errno.text.toList)
      if report.all then
        let _ ← put ("failed to change mode of ".toList ++ shellQuoted file ++ " from ".toList ++
          Mode.fourDigits info.mode ++ " (".toList ++ Mode.letters info.mode ++ ") to ".toList ++
          Mode.fourDigits mode ++ " (".toList ++ Mode.letters mode ++ ")\n".toList)
      pure false
  | _ =>
      if report.all || (report.changes && mode ≠ info.mode) then
        let _ ← put (modeStory file info.mode mode)
      let naive := Mode.adjust isDirectory 0 changes info.mode
      if asOption && Mode.without mode naive ≠ 0 then
        let kind := kindLetter info.kind
        complain name (nameSafe file ++ ": new permissions are ".toList ++
          (kind :: Mode.letters mode).drop 1 ++ ", not ".toList ++
          (kind :: Mode.letters naive).drop 1)
        pure false
      else pure true

def changeModes (name : Chars) (report : ModeReport) (deep : Bool)
    (one : Chars → Info → Action Bool) : Nat → Bool → Chars → Action Bool
  | 0, _, _ => pure false
  | fuel + 1, top, file => do
      match ← infoAt file top with
      | .error errno =>
          if report.quiet then pure false
          else
            match ← infoAt file false with
            | .ok _ =>
                complain name ("cannot operate on dangling symlink ".toList ++ shellQuoted file)
                pure false
            | .error _ =>
                complain name
                  ("cannot access ".toList ++ shellQuoted file ++ ": ".toList ++ errno.text.toList)
                pure false
      | .ok info =>
          if info.kind = .link then pure true
          else
            let fine ← one file info
            if deep && info.kind = .directory then
              match ← namesIn file with
              | .ok names =>
                  let status ← forEach names fun entry =>
                    changeModes name report deep one fuel false (inside file entry)
                  pure (fine && status = 0)
              | .error errno =>
                  if !report.quiet then
                    complain name
                      ("cannot read directory ".toList ++ shellQuoted file ++ ": ".toList ++
                        errno.text.toList)
                  pure false
            else pure fine

def chmodOptions : OptionTable :=
  ⟨"Rcfv", [("changes", "c"), ("quiet", "f"), ("silent", "f"), ("recursive", "R"),
    ("reference:", "reference"), ("verbose", "v"), ("no-preserve-root", "n"),
    ("preserve-root", "p")], true⟩

def chmod : Tool := fun name words => do
  let options := words.takeWhile fun word => word ≠ ['-', '-']
  let asOption := join [','] (options.filter isModeWord)
  let left := options.filter (fun word => !isModeWord word) ++ words.drop options.length
  withOptions chmodOptions 1 (fun name asked => do
    let given := !asOption.isEmpty || asked.has "reference"
    let operands := if given then asked.operands else asked.operands.drop 1
    let text := if asOption.isEmpty then asked.operands.headD [] else asOption
    if operands.isEmpty then
      match asked.operands with
      | [] => giveUpUse name "missing operand".toList 1
      | last :: _ => giveUpUse name ("missing operand after ".toList ++ quoted last) 1
    let report : ModeReport := ⟨asked.has "c", asked.has "v", asked.has "f"⟩
    let changes ← match asked.value? "reference" with
      | some file => do
          match ← infoAt file true with
          | .ok info => pure [⟨.assign, Mode.all, .bits info.mode, Mode.all⟩]
          | .error errno =>
              giveUp name ("failed to get attributes of ".toList ++ shellQuoted file ++
                ": ".toList ++ errno.text.toList) 1
      | none =>
          match Mode.parse? text with
          | some changes => pure changes
          | none => giveUpUse name ("invalid mode: ".toList ++ quoted text) 1
    let mask ← currentMask
    forEach operands fun file =>
      changeModes name report (asked.has "R")
        (changeMode name report changes mask (!asOption.isEmpty)) deepest true file) name left

end BatchLaunch.Tools
