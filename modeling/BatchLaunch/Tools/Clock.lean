import BatchLaunch.Calendar.Read
import BatchLaunch.Calendar.Show
import BatchLaunch.Tools.Mode

/-!
Programs about time.
-/
namespace BatchLaunch.Tools

open Host (Action Call Reply Errno)
open Calendar (Moment)

def nanosPerSecond : Int := 1000000000

def momentOf (nanos : Int) : Moment :=
  ⟨nanos.fdiv nanosPerSecond, (nanos.emod nanosPerSecond).toNat⟩

def momentNanos (moment : Moment) : Int := moment.seconds * nanosPerSecond + moment.nanos

def present : Action Moment := do
  match ← Action.call .time with
  | .done nanos => pure (momentOf nanos)
  | _ => pure ⟨0, 0⟩

def standardPatterns (between point : Char) : List (List String × String) :=
  let start := "%Y-%m-%d".push between
  [(["hours"], start ++ "%H%:z"), (["minutes"], start ++ "%H:%M%:z"), (["date"], "%Y-%m-%d"),
    (["seconds"], start ++ "%H:%M:%S%:z"), (["ns"], (start ++ "%H:%M:%S").push point ++ "%N%:z")]

def usualPattern : String := "%a %b %e %H:%M:%S %Z %Y"

def mailPattern : String := "%a, %d %b %Y %H:%M:%S %z"

def lacksPlus (word : Chars) : Chars :=
  "the argument ".toList ++ quoted word ++ (" lacks a leading '+';\n" ++
    "when using an option to specify date(s), any non-option\n" ++
    "argument must be a format string beginning with '+'").toList

def dateOptions : OptionTable :=
  ⟨"d:f:I::r:Rs:u", [("date:", "d"), ("debug", "debug"), ("file:", "f"), ("iso-8601::", "I"),
    ("reference:", "r"), ("rfc-822", "R"), ("rfc-2822", "R"), ("rfc-email", "R"),
    ("rfc-3339:", "rfc"), ("set:", "s"), ("uct", "u"), ("utc", "u"), ("universal", "u")], true⟩

def date : Tool := withOptions dateOptions 1 fun name asked => do
  let now ← present
  let chosen ← match asked.last? ["I", "R", "rfc"] with
    | some ("I", []) => pure (some "%Y-%m-%d")
    | some ("I", word) => do
        pure (some (← choiceOf name "--iso-8601" (standardPatterns 'T' ',') word))
    | some ("rfc", word) => do
        pure (some (← choiceOf name "--rfc-3339" ((standardPatterns ' ' '.').drop 2) word))
    | some _ => pure (some mailPattern)
    | none => pure none
  let given := asked.has "d" || asked.has "f" || asked.has "r"
  let pattern ← match asked.operands with
    | [] => pure (chosen.getD usualPattern).toList
    | ('+' :: pattern) :: more => do
        if chosen.isSome then giveUp name "multiple output formats specified".toList 1
        else
          match more with
          | [] => pure pattern
          | extra :: _ => giveUpUse name ("extra operand ".toList ++ quoted extra) 1
    | word :: more => do
        match more with
        | extra :: _ => giveUpUse name ("extra operand ".toList ++ quoted extra) 1
        | [] =>
            if given then giveUpUse name (lacksPlus word) 1
            else giveUp name ("invalid date ".toList ++ quoted word) 1
  let showOne (moment : Moment) : Action Bool := put (moment.shown pattern ++ ['\n'])
  let showText (text : Chars) : Action Bool := do
    match now.ofText? text with
    | some moment => showOne moment
    | none =>
        complain name ("invalid date ".toList ++ quoted text)
        pure false
  match asked.last? ["d", "f", "r", "s"] with
  | some ("d", text) => forEach [text] showText
  | some ("f", file) => do
      let text ← textOrGiveUp name file 1
      forEach (recordsAt '\n' text) showText
  | some ("r", file) => do
      match ← infoAt file true with
      | .ok info => forEach [file] fun _ => showOne (momentOf info.modified)
      | .error errno =>
          complainOfFile name file errno
          pure 1
  | some (_, text) => do
      match now.ofText? text with
      | some moment =>
          complain name ("cannot set date: ".toList ++ Errno.notPermitted.text.toList)
          let _ ← showOne moment
          pure 1
      | none => giveUp name ("invalid date ".toList ++ quoted text) 1
  | none => forEach [[]] fun _ => showOne now

def exponentOf (text : Chars) : Int × Chars :=
  match text with
  | e :: rest =>
      if e = 'e' || e = 'E' then
        let negative := rest.head? = some '-'
        let body := if negative || rest.head? = some '+' then rest.drop 1 else rest
        let digits := body.takeWhile Char.isDigit
        match natural? digits with
        | some n => (if negative then -(n : Int) else n, body.drop digits.length)
        | none => (0, text)
      else (0, text)
  | [] => (0, [])

def forever : Nat := 1000000000000000

def duration? (text : Chars) : Option Nat :=
  let text := text.dropWhile isSpaceChar
  let text := if text.head? = some '+' then text.drop 1 else text
  let lower := text.map Char.toLower
  if lower = "inf".toList || lower = "infinity".toList then some forever
  else
    let whole := text.takeWhile Char.isDigit
    let (places, rest) := match text.drop whole.length with
      | '.' :: rest => (rest.takeWhile Char.isDigit, rest.dropWhile Char.isDigit)
      | rest => ([], rest)
    let (power, rest) := exponentOf rest
    let unit? : Option Nat := match rest with
      | [] | ['s'] => some 1
      | ['m'] => some 60
      | ['h'] => some 3600
      | ['d'] => some 86400
      | _ => none
    if whole.isEmpty && places.isEmpty then none
    else
      unit?.map fun unit =>
        let size := (natural? (whole ++ places)).getD 0 * unit * 1000000
        let shift := power - places.length
        if 0 ≤ shift then
          (if size = 0 then 0 else min forever (size * Nat.pow 10 (min 20 shift.toNat)))
        else size / Nat.pow 10 (min 400 (-shift).toNat)

def sleep : Tool := withOptions ⟨"", [], false⟩ 1 fun name asked => do
  needOperand name asked 1
  let bad := asked.operands.filter fun word => (duration? word).isNone
  if !bad.isEmpty then
    let _ ← forEach bad fun word => do
      complain name ("invalid time interval ".toList ++ quoted word)
      pure true
    complainOfHelp name
    pure 1
  else
    let _ ← Action.call (.sleep ((asked.operands.filterMap duration?).foldl (· + ·) 0))
    pure 0

end BatchLaunch.Tools
