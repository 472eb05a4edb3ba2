import BatchLaunch.Text.Regex.Parse
import BatchLaunch.Tools.Inputs
import BatchLaunch.Tools.Printf

/-!
A text cut into sections, each written to a file of its own, at lines that are named by number or by
what they look like.
-/
namespace BatchLaunch.Tools

open Host (Action)
open Text (Regex)

namespace Sections

/-! What to cut at -/

inductive Cut where
  | line (number : Nat)
  | match (regex : Regex) (skips : Bool) (offset : Int)

structure Order where
  word : Chars
  cut : Cut
  again : Option Nat

def offset? (text : Chars) : Option Int :=
  let text := text.dropWhile isSpaceChar
  match text with
  | '-' :: rest => (natural? rest).map fun n => -(n : Int)
  | '+' :: rest => (natural? rest).map Int.ofNat
  | rest => (natural? rest).map Int.ofNat

def matchOf (word : Chars) : Except Chars Cut :=
  let mark := word.headD '/'
  let body := word.drop 1
  let behind := (body.reverse.takeWhile (· ≠ mark)).reverse
  if behind.length = body.length then
    .error (word ++ ": closing delimiter '".toList ++ mark :: "' missing".toList)
  else
    let pattern := body.take (body.length - behind.length - 1)
    match Regex.parse ⟨false, false, false⟩ pattern with
    | .error message =>
        .error (quoted word ++ ": invalid regular expression: ".toList ++ message.toList)
    | .ok (regex, _) =>
        match if behind.isEmpty then some 0 else offset? behind with
        | some offset => .ok (.match regex (mark = '%') offset)
        | none => .error (quoted word ++ ": integer expected after delimiter".toList)

def repeatOf (word : Chars) : Except Chars (Option Nat) :=
  if word.getLast? ≠ some '\x7d' then
    .error (quoted word ++ ": '\x7d' is required in repeat count".toList)
  else
    let body := (word.drop 1).dropLast
    if body = ['*'] then .ok none
    else
      match offset? body with
      | some (.ofNat n) => .ok (some n)
      | _ => .error (quoted word.dropLast ++
          "\x7d: integer required between '\x7b' and '\x7d'".toList)

/-- The orders that words are, with warnings; the last number that a line was named by goes
along. -/
def ordersOf : Nat → List Chars → List Chars × Except Chars (List Order)
  | _, [] => ([], .ok [])
  | before, word :: rest =>
      let isMatch := word.head? = some '/' || word.head? = some '%'
      let cut : Except Chars Cut :=
        if isMatch then matchOf word
        else
          match offset? word with
          | some (.ofNat 0) => .error (word ++ ": line number must be greater than zero".toList)
          | some (.ofNat n) =>
              if n < before then
                .error ("line number ".toList ++ quoted word ++
                  " is smaller than preceding line number, ".toList ++ natChars before)
              else .ok (.line n)
          | _ => .error (quoted word ++ ": invalid pattern".toList)
      match cut with
      | .error fault => ([], .error fault)
      | .ok cut =>
          let last := match cut with
            | .line n => n
            | _ => before
          let warning := if isMatch || last ≠ before then []
            else ["warning: line number ".toList ++ quoted word ++
              " is the same as preceding line number".toList]
          let finish (again : Option Nat) (found : List Chars × Except Chars (List Order)) :
              List Chars × Except Chars (List Order) :=
            (warning ++ found.1, found.2.map (⟨word, cut, again⟩ :: ·))
          match rest with
          | [] => finish (some 0) ([], .ok [])
          | next :: others =>
              if next.head? = some '\x7b' then
                match repeatOf next with
                | .error fault => (warning, .error fault)
                | .ok again => finish again (ordersOf last others)
              else finish (some 0) (ordersOf last (next :: others))

/-! Cutting -/

structure Place where
  lines : List Chars
  taken : Nat
  current : Nat
  done : List Chars
  growing? : Option Chars

inductive Stop where
  | fault (text : Chars) (late undoes : Bool)
  | finished

abbrev Cutting := ExceptT Stop (StateM Place)

def fault {α : Type} (text : Chars) (late : Bool) : Cutting α := throw (.fault text late true)

def begin : Cutting Unit := modify fun place => { place with growing? := some [] }

def finish : Cutting Unit := modify fun place =>
  { place with growing? := none, done := place.growing?.toList ++ place.done }

def used (place : Place) : Bool := place.lines.length ≤ place.taken

def line? (place : Place) (number : Nat) : Option Chars :=
  if used place || number = 0 then none else place.lines[number - 1]?

def take : Cutting (Option Chars) := do
  let place ← get
  if used place then return none
  set { place with current := max place.current (place.taken + 1), taken := place.taken + 1 }
  return place.lines[place.taken]?

def keep (line : Chars) : Cutting Unit := modify fun place =>
  { place with growing? := place.growing?.map (· ++ line) }

def keepRest : Cutting Unit := modify fun place =>
  { place with
    growing? := place.growing?.map (· ++ (place.lines.drop place.taken).flatten)
    taken := max place.taken place.lines.length }

def firstLeft : Cutting Nat := do
  let place ← get
  if used place then throw (.fault "input disappeared".toList false false)
  return place.taken + 1

def onRepetition (round : Nat) : Chars :=
  if round = 0 then [] else " on repetition ".toList ++ natChars round

def keepUpTo (fail : Cutting Unit) (keeps : Bool) : Nat → Cutting Unit
  | 0 => pure ()
  | count + 1 => do
      match ← take with
      | some line => if keeps then keep line
      | none => fail
      keepUpTo fail keeps count

def cutAtLine (dropsMatched : Bool) (number round : Nat) : Cutting Unit := do
  let bad : Cutting Unit :=
    fault (quoted (natChars number) ++ ": line number out of range".toList ++ onRepetition round)
      true
  let noMore : Cutting Bool := do
    let place ← get
    return (line? place (place.current + 1)).isNone
  begin
  if dropsMatched then
    if ← noMore then bad
  let start ← firstLeft
  keepUpTo bad true (number * (round + 1) - start)
  finish
  if dropsMatched then
    let _ ← take
  else if ← noMore then bad

/-- Goes on to a line that is matched. What is passed is kept already if that is safe. -/
def seek (order : Order) (regex : Regex) (skips takes : Bool) (round : Nat) : Nat → Cutting Unit
  | 0 => pure ()
  | fuel + 1 => do
      modify fun place => { place with current := place.current + 1 }
      let place ← get
      let giveOut : Cutting Unit := do
        if !skips then
          keepRest
          finish
      match line? place place.current with
      | none =>
          if order.again.isNone then
            giveOut
            throw .finished
          else
            giveOut
            fault (quoted order.word ++ ": match not found".toList ++ onRepetition round) true
      | some line =>
          let bare := if line.getLast? = some '\n' then line.dropLast else line
          if Regex.isMatched ⟨false, false⟩ regex bare then pure ()
          else
            if takes then
              match ← take with
              | some line => if !skips then keep line
              | none => pure ()
            seek order regex skips takes round fuel

def cutAtMatch (dropsMatched : Bool) (order : Order) (regex : Regex) (skips : Bool) (offset : Int)
    (round : Nat) : Cutting Unit := do
  if !skips then begin
  seek order regex skips (0 ≤ offset) round ((← get).lines.length + 2)
  let bad : Cutting Unit := fault (quoted order.word ++ ": line number out of range".toList) false
  let stop := (← get).current + offset
  let start ← firstLeft
  if stop < start then bad
  keepUpTo bad (!skips) (stop - start).toNat
  if !skips then finish
  if 0 < offset then
    modify fun place => { place with current := stop.toNat }
  if dropsMatched then
    let _ ← take

def cutAgain (dropsMatched : Bool) (order : Order) : Nat → Nat → Cutting Unit
  | 0, _ => pure ()
  | fuel + 1, round => do
      if order.again.all (round ≤ ·) then
        match order.cut with
        | .line number => cutAtLine dropsMatched number round
        | .match regex skips offset => cutAtMatch dropsMatched order regex skips offset round
        cutAgain dropsMatched order fuel (round + 1)

def cutAll (dropsMatched : Bool) (orders : List Order) : Cutting Unit := do
  let fuel := (← get).lines.length + 3
  orders.forM fun order =>
    cutAgain dropsMatched order (order.again.elim fuel fun n => min (n + 1) fuel) 0
  begin
  keepRest
  finish

/-! Names -/

structure Numbering where
  before : Chars
  directive : Directive
  behind : Chars

def plainText : Chars → Chars × Chars
  | '%' :: '%' :: rest => let (text, left) := plainText rest; ('%' :: text, left)
  | '%' :: rest => ([], '%' :: rest)
  | c :: rest => let (text, left) := plainText rest; (c :: text, left)
  | [] => ([], [])

def numberingOf (text : Chars) : Except Chars Numbering := do
  let (before, found) := plainText text
  if found.isEmpty then
    .error "missing % conversion specification in suffix".toList
  let body := found.drop 1
  let flags := body.takeWhile fun c => "-0'#".toList.contains c
  let rest := body.drop flags.length
  let width := rest.takeWhile Char.isDigit
  let rest := rest.drop width.length
  let places := if rest.head? = some '.' then some ((rest.drop 1).takeWhile Char.isDigit) else none
  let rest := rest.drop (places.elim 0 fun digits => digits.length + 1)
  let kind ← match rest.head? with
    | none => .error "missing conversion specifier in suffix".toList
    | some c =>
        if "diu".toList.contains c then .ok 'u'
        else if "oxX".toList.contains c then .ok c
        else if ' ' ≤ c && c ≤ '~' then
          .error ("invalid conversion specifier in suffix: ".toList ++ [c])
        else
          .error ("invalid conversion specifier in suffix: \\".toList ++
            padDigits ⟨[], 0, some 3, 'o'⟩ false (Nat.toDigits 8 c.toNat))
  let refused := if kind = 'u' then '#' else '\x27'
  if flags.contains refused then
    .error ("invalid flags in conversion specification: %".toList ++
      [refused, rest.headD ' '])
  let (behind, more) := plainText (rest.drop 1)
  if !more.isEmpty then
    .error "too many % conversion specifications in suffix".toList
  return ⟨before, ⟨flags.filter (· ≠ '\x27'), (natural? width).getD 0,
    places.map fun digits => (natural? digits).getD 0, kind⟩, behind⟩

def Numbering.name (numbering : Numbering) (start : Chars) (number : Nat) : Chars :=
  start ++ numbering.before ++
    (formatOne toolManner numbering.directive (some (natChars number))).text ++ numbering.behind

/-! Files -/

structure Writing where
  program : Chars
  fileName : Nat → Chars
  keeps : Bool
  showsSizes : Bool
  elidesEmpty : Bool

def Writing.undo (writing : Writing) (count : Nat) : Action Unit := do
  if !writing.keeps then
    (List.range count).reverse.forM fun number => do
      let _ ← Action.call (.remove (path (writing.fileName number)))

def Writing.put (writing : Writing) (number : Nat) (shown contents : Chars) :
    Action (Nat × Chars) := do
  let file := writing.fileName number
  match ← Action.call (.open (path file) .write) with
  | .refused errno =>
      let _ ← Tools.put shown
      complainOf writing.program (nameSafe file) errno
      writing.undo number
      Action.exit 1
  | .done target =>
      let _ ← Action.write target (Text.octetsOf contents)
      let _ ← Action.call (.close target)
      if contents.isEmpty && writing.elidesEmpty then
        let _ ← Action.call (.remove (path file))
        pure (number, shown)
      else
        pure (number + 1,
          if writing.showsSizes then shown ++ natChars contents.length ++ ['\n'] else shown)
  | _ => pure (number, shown)

def Writing.all (writing : Writing) (result : Except Stop Unit) (place : Place) : Action Nat := do
  let (number, shown) ← place.done.reverse.foldlM (fun (number, shown) contents =>
    writing.put number shown contents) (0, [])
  match result with
  | .ok _ | .error .finished =>
      let _ ← Tools.put shown
      pure 0
  | .error (.fault text late undoes) =>
      if !late then
        let _ ← Tools.put shown
      complain writing.program text
      let shown := if late then shown else []
      let (number, rest) ← match place.growing? with
        | none => pure (number, shown)
        | some contents => do
            let (number, rest) ← writing.put number shown contents
            pure (number, if undoes then rest else shown)
      let _ ← Tools.put rest
      if undoes then writing.undo number
      pure 1

end Sections

open Sections in
def csplit : Tool := withOptions
  { letters := "b:f:kn:sqz", mixed := true
    words := [("digits:", "n"), ("quiet", "s"), ("silent", "s"), ("keep-files", "k"),
      ("elide-empty-files", "z"), ("prefix:", "f"), ("suffix-format:", "b"),
      ("suppress-matched", "suppress-matched")] } 1
  fun name asked => do
    let digits ← match asked.value? "n" with
      | none => pure 2
      | some text =>
          match offset? text with
          | some (.ofNat n) =>
              if 2147483647 < n then
                giveUp name ("invalid number: ".toList ++ quoted text ++ rangeText) 1
              else pure n
          | some _ => giveUp name ("invalid number: ".toList ++ quoted text ++ rangeText) 1
          | none => giveUp name ("invalid number: ".toList ++ quoted text) 1
    let (file, words) ← match asked.operands with
      | [] => giveUpUse name "missing operand".toList 1
      | [file] => giveUpUse name ("missing operand after ".toList ++ quoted file) 1
      | file :: words => pure (file, words)
    let numbering ← match asked.value? "b" with
      | none => pure ⟨[], ⟨['0'], digits, none, 'u'⟩, []⟩
      | some text =>
          match numberingOf text with
          | .ok numbering => pure numbering
          | .error fault => giveUp name fault 1
    let writing : Writing := {
      program := name
      fileName := numbering.name ((asked.value? "f").getD "xx".toList)
      keeps := asked.has "k", showsSizes := !(asked.has "s" || asked.has "q")
      elidesEmpty := asked.has "z" }
    match ← openInput file with
    | .error errno =>
        giveUp name ("cannot open ".toList ++ shellQuoted file ++ " for reading: ".toList ++
          errno.text.toList) 1
    | .ok source =>
        let (warnings, orders) := ordersOf 0 words
        warnings.forM fun warning => complain name warning
        match orders with
        | .error fault => giveUp name fault 1
        | .ok orders =>
            match ← Action.readAll source blockLimit with
            | .error errno =>
                complain name ("read error: ".toList ++ errno.text.toList)
                if writing.showsSizes && words.all fun word => word.head? ≠ some '%' then
                  let _ ← put "0\n".toList
                pure 1
            | .ok octets =>
                let start : Place := ⟨fullLines (Text.charsOf octets), 0, 0, [], none⟩
                let (result, place) := (cutAll (asked.has "suppress-matched") orders).run start
                writing.all result place

end BatchLaunch.Tools
