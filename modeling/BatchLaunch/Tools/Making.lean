import BatchLaunch.Tools.Clock

/-!
Programs that make directories and files, and set the times and lengths of these.
-/
namespace BatchLaunch.Tools

open Host (Action Call Reply Errno Info)

def stages (word : Chars) : List Chars :=
  let parts := Text.partsAt '/' word
  ((List.range parts.length).filterMap fun n =>
    let stage := join ['/'] (parts.take (n + 1))
    if stage.isEmpty || (parts[n]?).any List.isEmpty then none else some stage)

structure Construction where
  name : Chars
  parents : Bool
  tells : Bool
  mode : Option Nat
  telling : String

namespace Construction

def refuse (construction : Construction) (dir : Chars) (errno : Errno) : Action Bool := do
  complain construction.name
    ("cannot create directory ".toList ++ quoted dir ++ ": ".toList ++ errno.text.toList)
  pure false

def tell (construction : Construction) (dir : Chars) : Action Unit := do
  if construction.tells then
    let _ ← put (construction.name ++ ": ".toList ++ construction.telling.toList ++
      " directory ".toList ++ shellQuoted dir ++ ['\n'])
    pure ()
  else pure ()

def makeOne (construction : Construction) (final : Bool) (dir : Chars) :
    Action (Except Errno Unit) := do
  match ← Action.call (.makeDir (path dir) 0o777) with
  | .refused errno => pure (.error errno)
  | _ =>
      construction.tell dir
      match construction.mode with
      | some mode =>
          if final then
            let _ ← Action.call (.setMode (path dir) mode)
          pure (.ok ())
      | none => pure (.ok ())

def makeAll (construction : Construction) (dir : Chars) : List Chars → Action Bool
  | [] => pure true
  | stage :: rest => do
      match ← construction.makeOne rest.isEmpty stage with
      | .ok () => makeAll construction dir rest
      | .error errno =>
          match ← infoAt stage true with
          | .ok info =>
              if info.kind = .directory then makeAll construction dir rest
              else construction.refuse stage (if rest.isEmpty then .present else .notDirectory)
          | .error _ => construction.refuse (if errno = .present then stage else dir) errno

def make (construction : Construction) (dir : Chars) : Action Bool := do
  if construction.parents then
    if dir.isEmpty then construction.refuse dir .noEntry
    else construction.makeAll dir (stages dir)
  else
    match ← construction.makeOne true dir with
    | .ok () => pure true
    | .error errno => construction.refuse dir errno

end Construction

def mkdirOptions : OptionTable :=
  ⟨"m:pvZ", [("context::", "Z"), ("mode:", "m"), ("parents", "p"), ("verbose", "v")], true⟩

def mkdir : Tool := withOptions mkdirOptions 1 fun name asked => do
  needOperand name asked 1
  let mode ← match asked.value? "m" with
    | none => pure none
    | some text =>
        match Mode.parse? text with
        | none => giveUp name ("invalid mode ".toList ++ quoted text) 1
        | some changes => do
            let mask ← currentMask
            pure (some (Mode.adjust true mask changes 0o777))
  let construction : Construction := ⟨name, asked.has "p", asked.has "v", mode, "created"⟩
  forEach asked.operands construction.make

/-! Pipes and devices -/

def mkfifoOptions : OptionTable := ⟨"m:Z", [("context::", "Z"), ("mode:", "m")], true⟩

def specialMode (name : Chars) (asked : Asked) : Action (Option Nat) := do
  match asked.value? "m" with
  | none => pure none
  | some text =>
      match Mode.parse? text with
      | none => giveUp name "invalid mode".toList 1
      | some changes => do
          let mask ← currentMask
          let mode := Mode.adjust false mask changes 0o666
          if 0o777 < mode then giveUp name "mode must specify only file permission bits".toList 1
          pure (some mode)

def makePipe (mode : Option Nat) (file : Chars) : Action (Option Errno) := do
  match ← Action.call (.makePipe (path file) (mode.getD 0o666)) with
  | .refused errno => pure (some errno)
  | _ =>
      match mode with
      | some mode =>
          let _ ← Action.call (.setMode (path file) mode)
          pure none
      | none => pure none

def mkfifo : Tool := withOptions mkfifoOptions 1 fun name asked => do
  needOperand name asked 1
  let mode ← specialMode name asked
  forEach asked.operands fun file => do
    match ← makePipe mode file with
    | some errno =>
        complain name ("cannot create fifo ".toList ++ shellQuoted file ++ ": ".toList ++
          errno.text.toList)
        pure false
    | none => pure true

def miscounted {α : Type} (name text : Chars) (remark : String) : Action α := do
  complain name text
  let _ ← Action.write errors (Text.octetsOf remark.toList)
  complainOfHelp name
  Action.exit 1

def mknod : Tool := withOptions mkfifoOptions 1 fun name asked => do
  let mode ← specialMode name asked
  let words := asked.operands
  let kind := (words[1]?).getD []
  let ofPipe := kind.head? = some 'p'
  let expected := if words.isEmpty || ofPipe then 2 else 4
  if words.length < expected then
    match words.getLast? with
    | none => giveUpUse name "missing operand".toList 1
    | some last =>
        miscounted name ("missing operand after ".toList ++ quoted last)
          (if expected = 4 && words.length = 2 then
            "Special files require major and minor device numbers.\n" else "")
  if expected < words.length then
    miscounted name ("extra operand ".toList ++ quoted ((words[expected]?).getD []))
      (if expected = 2 && words.length = 4 then
        "Fifos do not have major and minor device numbers.\n" else "")
  let file := words.headD []
  if ofPipe then
    match ← makePipe mode file with
    | some errno => complainOf name (nameSafe file) errno
    | none => Action.exit 0
  else if !(kind.head?.any fun letter => ['b', 'c', 'u'].contains letter) then
    giveUpUse name ("invalid device type ".toList ++ quoted kind) 1
  else
    for (place, what) in [(2, "major"), (3, "minor")] do
      let number := (words[place]?).getD []
      if (natural? number).isNone then
        giveUp name ("invalid ".toList ++ what.toList ++ " device number ".toList ++ quoted number) 1
    complainOf name (nameSafe file) .notPermitted
  pure 1

/-! Times -/

def stampMoment? (now : Calendar.Moment) (text : Chars) : Option Calendar.Moment :=
  let digits := text.takeWhile Char.isDigit
  let seconds? : Option Int := match text.drop digits.length with
    | [] => some 0
    | '.' :: places => if places.length = 2 then (natural? places).map Int.ofNat else none
    | _ => none
  let pair (place : Nat) : Int := (natural? ((digits.drop place).take 2)).getD 0
  let year? : Option Int := match digits.length with
    | 8 => some (Calendar.Civil.ofSeconds now.seconds).year
    | 10 => some (pair 0 + if pair 0 < 69 then 2000 else 1900)
    | 12 => some (pair 0 * 100 + pair 2)
    | _ => none
  match seconds?, year? with
  | some seconds, some year =>
      let start := digits.length - 8
      let civil : Calendar.Civil :=
        ⟨year, pair start, pair (start + 2), pair (start + 4), pair (start + 6), seconds⟩
      if civil.isProper then some ⟨civil.toSeconds, 0⟩ else none
  | _, _ => none

def touchOptions : OptionTable :=
  ⟨"acd:fhmr:t:", [("date:", "d"), ("no-create", "c"), ("no-dereference", "h"),
    ("reference:", "r"), ("time:", "time")], true⟩

def touchTime (name : Chars) (asked : Asked) : Action (Option Int) := do
  let now ← present
  let base ← match asked.value? "r" with
    | none => pure none
    | some file =>
        match ← infoAt file (!asked.has "h") with
        | .ok info => pure (some (momentOf info.modified))
        | .error errno =>
            giveUp name ("failed to get attributes of ".toList ++ shellQuoted file ++
              ": ".toList ++ errno.text.toList) 1
  let stamp ← match asked.value? "t" with
    | none => pure none
    | some text =>
        match stampMoment? now text with
        | some moment => pure (some moment)
        | none => giveUp name ("invalid date format ".toList ++ quoted text) 1
  match asked.value? "d" with
  | some text =>
      match (base.getD now).ofText? text with
      | some moment => pure (some (momentNanos moment))
      | none => giveUp name ("invalid date format ".toList ++ quoted text) 1
  | none => pure ((stamp.orElse fun _ => base).map momentNanos)

/-- Which of the times of a file is set: that of the last look at it, or that of the last change. -/
def touchedTimes : List (List String × Bool) :=
  [(["atime", "access", "use"], true), (["mtime", "modify"], false)]

def touch : Tool := withOptions touchOptions 1 fun name asked => do
  let chosen ← (asked.values "time").mapM (choiceOf name "--time" touchedTimes)
  let time ← touchTime name asked
  if asked.operands.isEmpty then giveUpUse name "missing file operand".toList 1
  if asked.has "t" && (asked.has "d" || asked.has "r") then
    giveUpUse name "cannot specify times from more than one source".toList 1
  let onlyRead := (asked.has "a" || chosen.contains true) &&
    !(asked.has "m" || chosen.contains false)
  forEach asked.operands fun file => do
    if file = ['-'] then pure true
    else
      let opened ← if asked.has "c" || asked.has "h" then pure none
        else
          match ← Action.call (.open (path file) .keep) with
          | .done descriptor => do
              let _ ← Action.call (.close descriptor)
              pure none
          | .refused .isDirectory => pure none
          | .refused errno => pure (some errno)
          | _ => pure none
      let set ← if onlyRead then infoAt file true
        else
          match ← Action.call (.setTime (path file) time) with
          | .refused errno => pure (.error errno)
          | _ => infoAt file true
      match set with
      | .ok _ => pure true
      | .error errno =>
          match opened with
          | some errno =>
              complain name
                ("cannot touch ".toList ++ shellQuoted file ++ ": ".toList ++ errno.text.toList)
              pure false
          | none =>
              if errno = .noEntry && asked.has "c" then pure true
              else
                complain name ("setting times of ".toList ++ shellQuoted file ++ ": ".toList ++
                  errno.text.toList)
                pure false

/-! Lengths -/

def newLength (relation : Char) (size old : Nat) : Nat :=
  match relation with
  | '+' => old + size
  | '-' => old - size
  | '<' => min old size
  | '>' => max old size
  | '/' => old / size * size
  | '%' => (old + size - 1) / size * size
  | _ => size

def truncateOptions : OptionTable :=
  ⟨"cor:s:", [("no-create", "c"), ("io-blocks", "o"), ("reference:", "r"), ("size:", "s")], true⟩

def truncate : Tool := withOptions truncateOptions 1 fun name asked => do
  let unit := if asked.has "o" then 4096 else 1
  let (relation, size) ← match asked.value? "s" with
    | none => pure ('=', none)
    | some text => do
        let body := text.dropWhile isSpaceChar
        let relation := (body.head?.filter fun c => "+-<>/%".toList.contains c).getD '='
        let digits := if relation = '=' then body
          else if relation = '+' || relation = '-' then body.drop 1
          else (body.drop 1).dropWhile isSpaceChar
        match amount? "EgGkKmMPQRtTYZ0" digits with
        | .ok n =>
            if n = 0 && (relation = '/' || relation = '%') then
              giveUp name "division by zero".toList 1
            else pure (relation, some (n * unit))
        | .error fault =>
            giveUp name ("Invalid number: ".toList ++ quoted text ++ fault) 1
  let base ← match asked.value? "r" with
    | none => pure none
    | some file =>
        match ← infoAt file true with
        | .ok info => pure (some info.size)
        | .error errno =>
            giveUp name
              ("cannot stat ".toList ++ shellQuoted file ++ ": ".toList ++ errno.text.toList) 1
  if size.isNone && base.isNone then
    giveUpUse name ("you must specify either ".toList ++ quoted "--size".toList ++ " or ".toList ++
      quoted "--reference".toList) 1
  if base.isSome && size.isSome && relation = '=' then
    giveUpUse name ("you must specify a relative ".toList ++ quoted "--size".toList ++
        " with ".toList ++
      quoted "--reference".toList) 1
  if size.isNone && asked.has "o" then
    giveUpUse name (quoted "--io-blocks".toList ++ " was specified but ".toList ++
      quoted "--size".toList ++ " was not".toList) 1
  if asked.operands.isEmpty then giveUpUse name "missing file operand".toList 1
  forEach asked.operands fun file => do
    let missing := match ← infoAt file true with
      | .error .noEntry => true
      | _ => false
    if missing && asked.has "c" then pure true
    else
      match ← Action.call (.open (path file) .keep) with
      | .done descriptor => do
          let old := base.getD (match ← infoAt file true with
            | .ok info => info.size
            | .error _ => 0)
          let length := size.elim old (newLength relation · old)
          let answer ← Action.call (.setLength descriptor length)
          let _ ← Action.call (.close descriptor)
          match answer with
          | .refused errno =>
              complain name ("failed to truncate ".toList ++ shellQuoted file ++ " at ".toList ++
                natChars length ++ " bytes: ".toList ++ errno.text.toList)
              pure false
          | _ => pure true
      | .refused errno =>
          complain name ("cannot open ".toList ++ shellQuoted file ++ " for writing: ".toList ++
            errno.text.toList)
          pure false
      | _ => pure false

def syncOptions : OptionTable := ⟨"df", [("data", "d"), ("file-system", "f")], true⟩

/-- Everything is where it belongs at once, so only what cannot be opened is noticed. -/
def sync : Tool := withOptions syncOptions 1 fun name asked => do
  if asked.has "d" && asked.has "f" then
    giveUp name "cannot specify both --data and --file-system".toList 1
  if asked.has "d" && asked.operands.isEmpty then
    giveUp name "--data needs at least one argument".toList 1
  forEach asked.operands fun file => do
    match ← Action.call (.open (path file) .read) with
    | .done descriptor =>
        let _ ← Action.call (.close descriptor)
        pure true
    | .refused errno =>
        complain name ("error opening ".toList ++ shellQuoted file ++ ": ".toList ++
          errno.text.toList)
        pure false
    | _ => pure true

end BatchLaunch.Tools
