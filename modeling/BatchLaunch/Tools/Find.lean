import BatchLaunch.Text.Regex.Parse
import BatchLaunch.Host.People
import BatchLaunch.Tools.Listing
import BatchLaunch.Tools.Starting

/-!
`find`: directories are gone through, and what is found in them is put to an expression of tests and
actions.
-/
namespace BatchLaunch.Tools

open Host (Action Call Reply Errno Environment Info Descriptor)
open Text (Regex)

namespace Find

structure Visit where
  file : Chars
  start : Chars
  depth : Nat
  info : Info

structure Walk where
  status : Nat
  pruned : Bool
  stopped : Bool
  pending : List (Nat × Chars)

abbrev Check := Visit → Walk → Action (Bool × Walk)

inductive Links where
  | never
  | operands
  | always
  deriving DecidableEq, Repr

structure Plan where
  name : Chars
  environment : Environment
  now : Calendar.Moment
  links : Links
  acts : Bool
  depthFirst : Bool
  least : Nat
  most : Nat
  regexMode : Bool
  batches : List (List Chars)
  afterPattern : Option Chars

def Check.test (passes : Visit → Bool) : Check := fun visit walk => pure (passes visit, walk)

def Check.act (action : Visit → Action Unit) : Check := fun visit walk => do
  action visit
  pure (true, walk)

def Check.both (first second : Check) : Check := fun visit walk => do
  let (passed, walk) ← first visit walk
  if passed then second visit walk else pure (false, walk)

def Check.either (first second : Check) : Check := fun visit walk => do
  let (passed, walk) ← first visit walk
  if passed then pure (true, walk) else second visit walk

def Check.not (check : Check) : Check := fun visit walk => do
  let (passed, walk) ← check visit walk
  pure (!passed, walk)

def Check.andThen (first second : Check) : Check := fun visit walk => do
  let (_, walk) ← first visit walk
  second visit walk

/-! Numbers and kinds -/

structure Measure where
  relation : Ordering
  number : Nat

def Measure.ofText? : Chars → Option Measure
  | '+' :: digits => (natural? digits).map (⟨.gt, ·⟩)
  | '-' :: digits => (natural? digits).map (⟨.lt, ·⟩)
  | digits => (natural? digits).map (⟨.eq, ·⟩)

def Measure.fits (measure : Measure) (n : Int) : Bool :=
  compare n (measure.number : Int) = measure.relation

def typeLetter (info : Info) : Char :=
  if info.kind = .file then 'f' else kindLetter info.kind

def sizeUnit? : Chars → Option Nat
  | [] | ['b'] => some 512
  | ['c'] => some 1
  | ['w'] => some 2
  | ['k'] => some 1024
  | ['M'] => some 1048576
  | ['G'] => some 1073741824
  | _ => none

def tick (text : Chars) : Chars := '\x60' :: text ++ ['\x27']

/-! Patterns of what is printed -/

def lastPart (file : Chars) : Chars := baseOf file

def leadingPart (file : Chars) : Chars :=
  let trimmed := (file.reverse.dropWhile (· = '/')).reverse
  if trimmed.contains '/' then
    let before := ((trimmed.reverse.dropWhile (· ≠ '/')).drop 1).reverse
    before
  else ['.']

def belowStart (visit : Visit) : Chars :=
  (visit.file.drop visit.start.length).dropWhile (· = '/')

def timeWith (info : Info) (letter : Char) : Chars :=
  let moment := momentOf info.modified
  match letter with
  | '@' => moment.shown "%s.%N0".toList
  | '+' => moment.shown "%Y-%m-%d+%H:%M:%S.%N0".toList
  | 'S' => moment.shown "%S.%N0".toList
  | 'T' | 'X' => moment.shown "%H:%M:%S.%N0".toList
  | letter => moment.shown ['%', letter]

def part? (visit : Visit) (target : Chars) : Char → Option (Chars × Bool)
  | 'p' => some (visit.file, false)
  | 'f' => some (lastPart visit.file, false)
  | 'h' => some (leadingPart visit.file, false)
  | 'P' => some (belowStart visit, false)
  | 'H' => some (visit.start, false)
  | 'd' => some (natChars visit.depth, true)
  | 's' => some (natChars visit.info.size, true)
  | 'k' => some (natChars (blocksOf visit.info), true)
  | 'b' => some (natChars (blocksOf visit.info * 2), true)
  | 'm' => some (Mode.digits visit.info.mode, true)
  | 'M' => some (kindLetter visit.info.kind :: Mode.letters visit.info.mode, false)
  | 'y' | 'Y' => some ([typeLetter visit.info], false)
  | 'l' => some (target, false)
  | 'n' => some (natChars visit.info.links, true)
  | 'i' => some (natChars visit.info.node, true)
  | 'u' => some ((ownerOf visit.info).2, false)
  | 'U' => some (natChars (ownerOf visit.info).1, true)
  | 'g' => some ((groupOf visit.info).2, false)
  | 'G' => some (natChars (groupOf visit.info).1, true)
  | 'D' => some (natChars 65024, true)
  | 'F' => some ("ext4".toList, false)
  | 't' | 'a' | 'c' =>
      some ((momentOf visit.info.modified).shown "%a %b %e %H:%M:%S.%N0 %Y".toList, false)
  | _ => none

structure Directive where
  flags : Chars
  width : Nat
  precision : Option Nat
  behind : Chars

def Directive.ofText (rest : Chars) : Directive :=
  let flags := rest.takeWhile fun c => "-+ 0#".toList.contains c
  let behind := rest.drop flags.length
  let width := behind.takeWhile Char.isDigit
  let behind := behind.drop width.length
  match behind with
  | '.' :: more =>
      let digits := more.takeWhile Char.isDigit
      ⟨flags, (natural? width).getD 0, some ((natural? digits).getD 0), more.drop digits.length⟩
  | _ => ⟨flags, (natural? width).getD 0, none, behind⟩

def partLetters : Chars := "abcdDfFgGhHiklmMnpPsStuUyYZ".toList

def timeLetters : Chars := "ABCT".toList

/-- What a pattern with a mistake is met with: a warning for each, up to the first one that
cannot be lived with. -/
def patternFaults : Nat → Chars → List Chars × Option Chars
  | 0, _ => ([], none)
  | fuel + 1, text =>
      let warned (warning : Chars) (rest : Chars) : List Chars × Option Chars :=
        let (warnings, fault) := patternFaults fuel rest
        (("warning: ".toList ++ warning) :: warnings, fault)
      match text with
      | [] => ([], none)
      | ['\\'] => (["warning: escape ".toList ++ tick ['\\'] ++
          " followed by nothing at all".toList], none)
      | '\\' :: 'c' :: _ => ([], none)
      | '\\' :: c :: rest =>
          if "abfnrtv\\01234567".toList.contains c then patternFaults fuel rest
          else warned ("unrecognized escape ".toList ++ tick ['\\', c]) rest
      | ['%'] => ([], some "error: % at end of format string".toList)
      | '%' :: '%' :: rest => patternFaults fuel rest
      | '%' :: rest =>
          let reserved (c : Char) : Chars := "error: the format directive ".toList ++
            tick ['%', c] ++ " is reserved for future use".toList
          match (Directive.ofText rest).behind with
          | [] => ([], some (reserved '\x00'))
          | letter :: more =>
              if partLetters.contains letter then patternFaults fuel more
              else if timeLetters.contains letter then
                if more.isEmpty then warned ("format directive ".toList ++ tick ['%', letter] ++
                  " should be followed by another character".toList) more
                else patternFaults fuel (more.drop 1)
              else if ['\x7b', '[', '('].contains letter then ([], some (reserved letter))
              else warned ("unrecognized format directive ".toList ++ tick ['%', letter]) more
      | _ :: rest => patternFaults fuel rest

def format (visit : Visit) (target : Chars) : Nat → Chars → Chars
  | 0, _ => []
  | _, [] => []
  | fuel + 1, '\\' :: rest =>
      match rest with
      | 'n' :: more => '\n' :: format visit target fuel more
      | 't' :: more => '\t' :: format visit target fuel more
      | 'a' :: more => '\x07' :: format visit target fuel more
      | 'b' :: more => '\x08' :: format visit target fuel more
      | 'f' :: more => '\x0c' :: format visit target fuel more
      | 'r' :: more => '\r' :: format visit target fuel more
      | 'v' :: more => '\x0b' :: format visit target fuel more
      | 'c' :: _ => []
      | '\\' :: more => '\\' :: format visit target fuel more
      | _ =>
          let digits := (rest.take 3).takeWhile fun c => '0' ≤ c && c ≤ '7'
          match octal? digits with
          | some n => Char.ofNat (n % 256) :: format visit target fuel (rest.drop digits.length)
          | none => '\\' :: format visit target fuel rest
  | fuel + 1, '%' :: '%' :: rest => '%' :: format visit target fuel rest
  | fuel + 1, '%' :: rest =>
      let directive := Directive.ofText rest
      let field (isNumber : Bool) (text : Chars) : Chars :=
        fieldOf directive.flags directive.width directive.precision isNumber text
      let plain (more : Chars) : Chars :=
        '%' :: rest.take (rest.length - more.length) ++ format visit target fuel more
      match directive.behind with
      | [] => ['%']
      | letter :: more =>
          match if timeLetters.contains letter then more else [] with
          | time :: after => field false (timeWith visit.info time) ++ format visit target fuel after
          | [] =>
              match part? visit target letter with
              | some (text, isNumber) => field isNumber text ++ format visit target fuel more
              | none => plain more
  | fuel + 1, c :: rest => c :: format visit target fuel rest

def targetOf (visit : Visit) : Action Chars := do
  if visit.info.kind = .link then
    match ← Action.call (.readLink (path visit.file)) with
    | .octets words => pure (Text.charsOf words)
    | _ => pure []
  else pure []

def longLine (visit : Visit) (target : Chars) (now : Calendar.Moment) : Chars :=
  let info := visit.info
  let moment := momentOf info.modified
  let recent := moment.seconds ≤ now.seconds && now.seconds < moment.seconds + 31556952 / 2
  padLeft 9 (natChars info.node) ++ ' ' :: padLeft 6 (natChars (blocksOf info)) ++ ' ' ::
    (kindLetter info.kind :: Mode.letters info.mode) ++ ' ' :: padLeft 3 (natChars info.links) ++
    ' ' :: padRight 8 (ownerOf info).2 ++ ' ' :: padRight 8 (groupOf info).2 ++ ' ' ::
    padLeft 8 (natChars info.size) ++ ' ' ::
    moment.shown (if recent then "%b %e %H:%M" else "%b %e  %Y").toList ++ ' ' :: visit.file ++
    (if info.kind = .link then " -> ".toList ++ target else [])

/-! Commands -/

def commandFor (words : List Chars) (file : Chars) : List Chars :=
  words.map fun word => replaceMark word file (word.length + 1)
where
  replaceMark (word file : Chars) : Nat → Chars
    | 0 => word
    | fuel + 1 =>
        match word with
        | '\x7b' :: '\x7d' :: rest => file ++ replaceMark rest file fuel
        | c :: rest => c :: replaceMark rest file fuel
        | [] => []

def localName (visit : Visit) : Chars :=
  if visit.file = ['/'] then visit.file else "./".toList ++ lastPart visit.file

def toDirOf (visit : Visit) : Action Unit := do
  let _ ← Action.call (.changeDir (path (leadingPart visit.file)))
  pure ()

def runFor (plan : Plan) (inDir : Bool) (words : List Chars) : Check := fun visit walk => do
  let command := commandFor words (if inDir then localName visit else visit.file)
  let prepare : Action Unit := if inDir then toDirOf visit else pure ()
  match ← runChild plan.environment prepare command with
  | .ok (.exited 0) => pure (true, walk)
  | .ok _ => pure (false, walk)
  | .error errno =>
      complain plan.name (quoted (command.headD []) ++ ": ".toList ++ errno.text.toList)
      pure (false, walk)

def askFor (plan : Plan) (inDir : Bool) (words : List Chars) : Check := fun visit walk => do
  let _ ← Action.write errors (Text.octetsOf
    ("< ".toList ++ words.headD [] ++ " ... ".toList ++ visit.file ++ " > ? ".toList))
  let reply ← readReply 4096
  if reply.head? = some 'y' || reply.head? = some 'Y' then runFor plan inDir words visit walk
  else pure (false, walk)

def batchSize : Nat := 131072

def runPending (plan : Plan) (walk : Walk) : Action Nat :=
  plan.batches.zipIdx.foldlM (fun status (words, place) => do
    let files := (walk.pending.filter (·.1 = place)).map (·.2)
    if files.isEmpty then pure status
    else
      match ← runChild plan.environment (pure ()) (words ++ files.reverse) with
      | .ok (.exited 0) => pure status
      | .ok _ => pure 1
      | .error errno =>
          complain plan.name (quoted (words.headD []) ++ ": ".toList ++ errno.text.toList)
          pure 1) walk.status

/-! Reading the expression -/

abbrev Parsed := Check × Plan × List Chars

def fault {α : Type} (plan : Plan) (text : Chars) : Action α := giveUp plan.name text 1

def valueFor (plan : Plan) (predicate : Chars) : List Chars → Action (Chars × List Chars)
  | value :: rest => pure (value, rest)
  | [] => fault plan ("missing argument to ".toList ++ tick predicate)

def measureFor (plan : Plan) (predicate value : Chars) : Action Measure :=
  match Measure.ofText? value with
  | some measure => pure measure
  | none =>
      fault plan ("invalid argument ".toList ++ tick value ++ " to ".toList ++ tick predicate)

def depthFor (plan : Plan) (predicate value : Chars) : Action Nat :=
  match natural? value with
  | some n => pure n
  | none => fault plan ("Expected a positive decimal integer argument to ".toList ++ predicate ++
      ", but got ".toList ++ quoted value)

def referenceInfo (plan : Plan) (file : Chars) : Action Info := do
  match ← infoAt file (plan.links ≠ .never) with
  | .ok info => pure info
  | .error errno => fault plan (quoted file ++ ": ".toList ++ errno.text.toList)

def commandWords (plan : Plan) (predicate : Chars) (words : List Chars) :
    Action (List Chars × Bool × List Chars) := do
  let rec go (done : List Chars) : List Chars → Option (List Chars × Bool × List Chars)
    | [] => none
    | [';'] :: rest => some (done.reverse, false, rest)
    | ['\x7b', '\x7d'] :: ['+'] :: rest => some (done.reverse, true, rest)
    | word :: rest => go (word :: done) rest
  match words, go [] words with
  | [';'] :: _, _ => fault plan ("invalid argument \x60;' to ".toList ++ tick predicate)
  | _, some found => pure found
  | _, none => fault plan ("missing argument to ".toList ++ tick predicate)

def regexFor (plan : Plan) (value : Chars) (foldsCase : Bool) : Action Check := do
  let basic : Chars := if plan.regexMode then value else emacs (value.length + 1) value
  match Regex.parse ⟨plan.regexMode, false, false⟩ basic with
  | .error message =>
      fault plan ("failed to compile regular expression '".toList ++ value ++ "': ".toList ++
        message.toList)
  | .ok (regex, _) =>
      pure (Check.test fun visit =>
        (Text.Regex.matchAt? ⟨foldsCase, false⟩ (.seq regex (.anchor .textEnd)) visit.file
          ⟨visit.file, none, 0, []⟩).isSome)
where
  /-- Signs for repetition need no backslash in the usual way of writing. -/
  emacs : Nat → Chars → Chars
    | 0, text => text
    | fuel + 1, '\\' :: c :: rest =>
        if c = '+' || c = '?' then '[' :: c :: ']' :: emacs fuel rest
        else '\\' :: c :: emacs fuel rest
    | fuel + 1, c :: rest =>
        if c = '+' || c = '?' then '\\' :: c :: emacs fuel rest else c :: emacs fuel rest
    | _, [] => []

def modeFor (plan : Plan) (value : Chars) : Action (Nat → Bool) := do
  let (sign, text) := match value with
    | '-' :: rest => ('-', rest)
    | '/' :: rest => ('/', rest)
    | _ => ('=', value)
  match Mode.parse? text with
  | none => fault plan ("invalid mode ".toList ++ quoted value)
  | some changes =>
      let wanted := Mode.adjust false 0 changes 0
      pure fun mode => match sign with
        | '-' => mode &&& wanted = wanted
        | '/' => wanted = 0 || mode &&& wanted ≠ 0
        | _ => mode &&& 0o7777 = wanted

def lower (text : Chars) : Chars := text.map Char.toLower

def outputFor (plan : Plan) (file : Chars) : Action Descriptor := do
  match ← Action.call (.open (path file) .write) with
  | .done descriptor => pure descriptor
  | .refused errno => fault plan (quoted file ++ ": ".toList ++ errno.text.toList)
  | _ => pure output

def writeTo (target : Descriptor) (text : Chars) : Action Unit := do
  let _ ← Action.write target (Text.octetsOf text)
  pure ()

def printAction (target : Descriptor) (ending : Char) : Check :=
  Check.act fun visit => writeTo target (visit.file ++ [ending])

def formatAction (target : Descriptor) (pattern : Chars) : Check := Check.act fun visit => do
  let link ← targetOf visit
  writeTo target (format visit link (pattern.length + 1) pattern)

def checkPattern (plan : Plan) (pattern : Chars) : Action Unit := do
  let (warnings, reason) := patternFaults (pattern.length + 1) pattern
  let _ ← warnings.foldlM (fun _ warning => complain plan.name warning) ()
  match reason with
  | some reason => fault plan reason
  | none => pure ()

def ageOf (plan : Plan) (info : Info) : Int := momentNanos plan.now - info.modified

def valuedTest? (plan : Plan) (predicate value : Chars) : Option (Action Check) :=
  let simple (passes : Visit → Bool) : Option (Action Check) := some (pure (Check.test passes))
  let measured (amount : Info → Int) : Option (Action Check) := some do
    let measure ← measureFor plan predicate value
    pure (Check.test fun visit => measure.fits (amount visit.info))
  let linkTest (fits : Chars → Bool) : Option (Action Check) := some (pure fun visit walk => do
    let link ← targetOf visit
    pure (visit.info.kind = .link && fits link, walk))
  let newer : Option (Action Check) := some do
    let info ← referenceInfo plan value
    pure (Check.test fun visit => info.modified < visit.info.modified)
  let byNumber (number : Info → Nat) (named : Option Nat) (what : String) :
      Option (Action Check) :=
    match named <|> natural? value with
    | some n => simple fun visit => number visit.info = n
    | none => some (fault plan (quoted value ++ " is not the name of ".toList ++ what.toList))
  let day : Int := 86400 * nanosPerSecond
  let minute : Int := 60 * nanosPerSecond
  match String.ofList (predicate.drop 1) with
  | "name" => simple fun visit => fitsPattern value (lastPart visit.file)
  | "iname" => simple fun visit => fitsPattern (lower value) (lower (lastPart visit.file))
  | "path" | "wholename" => simple fun visit => fitsPattern value visit.file
  | "ipath" | "iwholename" => simple fun visit => fitsPattern (lower value) (lower visit.file)
  | "lname" => linkTest (fitsPattern value)
  | "ilname" => linkTest fun link => fitsPattern (lower value) (lower link)
  | "regex" => some (regexFor plan value false)
  | "iregex" => some (regexFor plan value true)
  | "type" | "xtype" =>
      let letters := Text.partsAt ',' value
      match letters.find? fun part => !(part.length = 1 && part.all "fdlpsbcD".toList.contains) with
      | some bad => some (fault plan ("Unknown argument to ".toList ++ predicate ++ ": ".toList ++
          (bad.take 1)))
      | none =>
          if predicate = "-xtype".toList then some (pure fun visit walk => do
            match ← infoAt visit.file true with
            | .ok info => pure (letters.contains [typeLetter info], walk)
            | .error _ => pure (letters.contains ['l'], walk))
          else simple fun visit => letters.contains [typeLetter visit.info]
  | "size" =>
      let sign := value.takeWhile fun c => c = '+' || c = '-'
      let digits := (value.drop sign.length).takeWhile Char.isDigit
      let letters := value.drop (sign.length + digits.length)
      match sizeUnit? letters, Measure.ofText? (sign ++ digits) with
      | some unit, some measure => simple fun visit =>
          measure.fits ((visit.info.size + unit - 1) / unit : Nat)
      | _, _ => some (fault plan ("invalid -size type ".toList ++ tick letters))
  | "links" => measured fun info => info.links
  | "inum" => measured fun info => info.node
  | "uid" => measured fun info => (ownerOf info).1
  | "gid" => measured fun info => (groupOf info).1
  | "mtime" | "atime" | "ctime" => measured fun info => (ageOf plan info).fdiv day
  | "mmin" | "amin" | "cmin" => measured fun info => (ageOf plan info + minute - 1).fdiv minute
  | "newer" | "anewer" | "cnewer" | "newermm" => newer
  | "newermt" => some do
      match plan.now.ofText? value with
      | some moment =>
          let time := momentNanos moment
          pure (Check.test fun visit => time < visit.info.modified)
      | none =>
          let text := "I cannot figure out how to interpret ".toList ++ quoted value ++
            " as a date or time".toList
          fault plan text
  | "perm" => some do
      let fits ← modeFor plan value
      pure (Check.test fun visit => fits visit.info.mode)
  | "user" => byNumber (fun info => (ownerOf info).1)
      ((Host.userNamed? (String.ofList value)).map Host.User.number) "a known user"
  | "group" => byNumber (fun info => (groupOf info).1)
      (Host.groupNamed? (String.ofList value)) "an existing group"
  | "samefile" => some do
      let info ← referenceInfo plan value
      pure (Check.test fun visit => visit.info.node = info.node)
  | "fstype" => simple fun _ => value = "ext4".toList
  | _ => none

def deleteAction (plan : Plan) : Check := fun visit walk => do
  if visit.file = ['.'] then pure (true, walk)
  else
    let request : Call := if visit.info.kind = .directory then .removeDir (path visit.file)
      else .remove (path visit.file)
    match ← Action.call request with
    | .refused errno =>
        complain plan.name
          ("cannot delete ".toList ++ quoted visit.file ++ ": ".toList ++ errno.text.toList)
        pure (false, { walk with status := 1 })
    | _ => pure (true, walk)

def isEmptyThing : Check := fun visit walk => do
  if visit.info.kind = .directory then
    match ← namesIn visit.file with
    | .ok names => pure (names.isEmpty, walk)
    | .error _ => pure (false, walk)
  else pure (visit.info.kind = .file && visit.info.size = 0, walk)

def plainPredicate? (plan : Plan) (predicate : Chars) : Option (Check × Plan) :=
  let acting : Plan := { plan with acts := true }
  let always : Check := Check.test fun _ => true
  let grants (bits : Nat) : Check := Check.test fun visit => visit.info.grants bits
  match String.ofList (predicate.drop 1) with
  | "true" => some (always, plan)
  | "false" => some (Check.test fun _ => false, plan)
  | "print" => some (printAction output '\n', acting)
  | "print0" => some (printAction output '\x00', acting)
  | "ls" => some (Check.act fun visit => do
      let link ← targetOf visit
      writeTo output (longLine visit link plan.now ++ ['\n']), acting)
  | "prune" => some (fun _ walk => pure (true, { walk with pruned := true }), plan)
  | "quit" => some (fun _ walk => pure (true, { walk with stopped := true }), acting)
  | "delete" => some (deleteAction plan, { acting with depthFirst := true })
  | "empty" => some (isEmptyThing, plan)
  | "depth" | "d" => some (always, { plan with depthFirst := true })
  | "readable" => some (grants 4, plan)
  | "writable" => some (grants 2, plan)
  | "executable" => some (grants 1, plan)
  | "nouser" | "nogroup" => some (Check.test fun _ => false, plan)
  | "follow" => some (always, { plan with links := .always })
  | "mount" | "xdev" | "noleaf" | "warn" | "nowarn" | "daystart" | "ignore_readdir_race"
  | "noignore_readdir_race" => some (always, plan)
  | _ => none

def predicate (plan : Plan) (word : Chars) (rest : List Chars) : Action Parsed := do
  let acting : Plan := { plan with acts := true }
  match plainPredicate? plan word with
  | some (check, plan) => pure (check, plan, rest)
  | none =>
      let valued (use : Chars → List Chars → Action Parsed) : Action Parsed := do
        let (value, rest) ← valueFor plan word rest
        use value rest
      let always : Check := Check.test fun _ => true
      match String.ofList (word.drop 1) with
      | "maxdepth" => valued fun value rest => do
          let n ← depthFor plan word value
          pure (always, { plan with most := n }, rest)
      | "mindepth" => valued fun value rest => do
          let n ← depthFor plan word value
          pure (always, { plan with least := n }, rest)
      | "regextype" => valued fun value rest => do
          let extended := ["posix-extended", "egrep", "posix-egrep", "awk", "gnu-awk", "posix-awk"]
          pure (always, { plan with regexMode := extended.contains (String.ofList value) }, rest)
      | "printf" => valued fun value rest => do
          checkPattern plan value
          pure (formatAction output value, acting, rest)
      | "fprint" => valued fun value rest => do
          let target ← outputFor plan value
          pure (printAction target '\n', acting, rest)
      | "fprint0" => valued fun value rest => do
          let target ← outputFor plan value
          pure (printAction target '\x00', acting, rest)
      | "fprintf" => valued fun value rest => do
          let target ← outputFor plan value
          let (pattern, rest) ← valueFor plan word rest
          checkPattern plan pattern
          pure (formatAction target pattern, acting, rest)
      | "exec" | "execdir" | "ok" | "okdir" => do
          let inDir := word = "-execdir".toList || word = "-okdir".toList
          let (words, many, rest) ← commandWords plan word rest
          if word.take 3 = "-ok".toList then pure (askFor plan inDir words, acting, rest)
          else if many then
            let place := plan.batches.length
            let check : Check := fun visit walk =>
              pure (true, { walk with pending := (place,
                if inDir then localName visit else visit.file) :: walk.pending })
            pure (check, { acting with batches := plan.batches ++ [words] }, rest)
          else pure (runFor plan inDir words, acting, rest)
      | _ =>
          match valuedTest? plan word (rest.headD []) with
          | some test => valued fun _ rest => do
              let check ← test
              let isPattern := ["-name", "-iname", "-path", "-ipath", "-wholename", "-lname",
                "-regex"].contains (String.ofList word)
              let before := if isPattern then some word else none
              pure (check, { plan with afterPattern := before }, rest)
          | none => fault plan ("unknown predicate ".toList ++ tick word)

def isAnd (word : Chars) : Bool := word = "-a".toList || word = "-and".toList

def isOr (word : Chars) : Bool := word = "-o".toList || word = "-or".toList

def isNot (word : Chars) : Bool := word = ['!'] || word = "-not".toList

def looksLikeExpression : Chars → Bool
  | '-' :: _ :: _ => true
  | ['('] | [')'] | ['!'] | [','] => true
  | _ => false

/-- Reads an expression: of parts after commas at level 0, of alternatives at 1, of parts that all
have to hold at 2, and a single one at 3. -/
def expression : Nat → Nat → Plan → List Chars → Action Parsed
  | 0, _, plan, _ => fault plan "expression too deep".toList
  | fuel + 1, level, plan, words => do
      let needed (word : Chars) (rest : List Chars) : Action Unit :=
        if rest.isEmpty then
          fault plan ("expected an expression after '".toList ++ word ++ ['\x27'])
        else pure ()
      match level, words with
      | 0, _ => do
          let (first, plan, rest) ← expression fuel 1 plan words
          match rest with
          | [','] :: rest => do
              needed [','] rest
              let (second, plan, rest) ← expression fuel 0 plan rest
              pure (first.andThen second, plan, rest)
          | _ => pure (first, plan, rest)
      | 1, _ => do
          let (first, plan, rest) ← expression fuel 2 plan words
          match rest with
          | word :: rest =>
              if isOr word then do
                needed word rest
                let (second, plan, rest) ← expression fuel 1 plan rest
                pure (first.either second, plan, rest)
              else pure (first, plan, word :: rest)
          | [] => pure (first, plan, [])
      | 2, _ => do
          let (first, plan, rest) ← expression fuel 3 plan words
          match rest with
          | [] => pure (first, plan, [])
          | word :: behind =>
              if isOr word || word = [','] || word = [')'] then pure (first, plan, rest)
              else do
                if isAnd word then needed word behind
                let (second, plan, rest) ←
                  expression fuel 2 plan (if isAnd word then behind else rest)
                pure (first.both second, plan, rest)
      | _, [] => fault plan "invalid expression".toList
      | _, word :: rest =>
          if isNot word then do
            needed word rest
            let (check, plan, rest) ← expression fuel 3 plan rest
            pure (check.not, plan, rest)
          else if isAnd word || isOr word || word = [','] then
            fault plan ("invalid expression; you have used a binary operator '".toList ++ word ++
              "' with nothing before it.".toList)
          else if word = ['('] then
            if rest.head? = some [')'] then
              fault plan "invalid expression; empty parentheses are not allowed.".toList
            else do
              let (check, plan, behind) ← expression fuel 0 plan rest
              match behind with
              | [')'] :: behind => pure (check, plan, behind)
              | _ => fault plan ("invalid expression; I was expecting to find a ')' somewhere " ++
                  "but did not see one.").toList
          else if word = [')'] then
            fault plan "invalid expression; you have too many ')'".toList
          else if looksLikeExpression word then
            predicate { plan with afterPattern := none } word rest
          else do
            complain plan.name ("paths must precede expression: ".toList ++ tick word)
            match plan.afterPattern, ← infoAt word false with
            | some before, .ok _ =>
                complain plan.name
                  ("possible unquoted pattern after predicate ".toList ++ tick before ++ ['?'])
            | _, _ => pure ()
            Action.exit 1

/-! The search -/

/-- Puts something to the expression, unless it is not deep enough. -/
def visitWith (plan : Plan) (check : Check) (visit : Visit) (walk : Walk) : Action Walk := do
  if visit.depth < plan.least || walk.stopped then pure walk
  else
    let (_, walk) ← check visit walk
    pure walk

def search (plan : Plan) (check : Check) (start : Chars) :
    Nat → Nat → Chars → Walk → Action Walk
  | 0, _, _, walk => pure walk
  | fuel + 1, depth, file, walk => do
      if walk.stopped then pure walk
      else
        let follows := plan.links = .always || (plan.links = .operands && depth = 0)
        let found ← match ← infoAt file follows with
          | .error errno => do
              if follows then infoAt file false else pure (.error errno)
          | .ok info => pure (.ok info)
        let refuse (errno : Errno) (walk : Walk) : Action Walk := do
          complain plan.name (quoted file ++ ": ".toList ++ errno.text.toList)
          pure { walk with status := 1 }
        match found with
        | .error errno => refuse errno walk
        | .ok info =>
            let visit : Visit := ⟨file, start, depth, info⟩
            let descends := info.kind = .directory && depth < plan.most
            let below (walk : Walk) : Action Walk := do
              match ← namesIn file with
              | .error errno => refuse errno walk
              | .ok names => names.foldlM (fun walk entry =>
                  search plan check start fuel (depth + 1) (inside file entry) walk) walk
            if plan.depthFirst then
              let walk ← if descends then below walk else pure walk
              visitWith plan check visit walk
            else
              let walk ← visitWith plan check visit { walk with pruned := false }
              if descends && !walk.pruned && !walk.stopped then below walk
              else pure { walk with pruned := false }

def leadingOptions : Links → List Chars → Links × List Chars
  | _, ['-', 'H'] :: rest => leadingOptions .operands rest
  | _, ['-', 'L'] :: rest => leadingOptions .always rest
  | _, ['-', 'P'] :: rest => leadingOptions .never rest
  | links, ('-' :: 'O' :: _ :: []) :: rest => leadingOptions links rest
  | links, ['-', '-'] :: rest => (links, rest)
  | links, words => (links, words)

def isPathWord (word : Chars) : Bool := !looksLikeExpression word

end Find

def find : EnvironmentTool := fun environment name words => do
  let now ← present
  let (links, words) := Find.leadingOptions .never words
  let paths := words.takeWhile Find.isPathWord
  let rest := words.drop paths.length
  let plan : Find.Plan :=
    ⟨name, environment, now, links, false, false, 0, Find.batchSize, false, [], none⟩
  let (check, plan, behind) ← if rest.isEmpty then
      pure (Find.Check.test fun _ => true, plan, [])
    else Find.expression (4 * rest.length + 10) 0 plan rest
  match behind with
  | word :: _ =>
      if word = [')'] then giveUp name "you have too many ')'".toList 1
      else giveUp name ("invalid expression; unexpected ".toList ++ word) 1
  | [] => pure ()
  let check := if plan.acts then check else check.both (Find.printAction output '\n')
  let walk ← (if paths.isEmpty then [['.']] else paths).foldlM
    (fun walk start => Find.search plan check start deepest 0 start walk)
    (⟨0, false, false, []⟩ : Find.Walk)
  Find.runPending plan walk

end BatchLaunch.Tools
