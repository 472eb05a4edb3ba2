import BatchLaunch.Tools.Inputs

/-!
Paragraphs filled anew: words are put on lines so that these come near to a width, where the best of
all ways to break a paragraph is taken.
-/
namespace BatchLaunch.Tools

open Host (Action)

namespace Fill

structure Plan where
  width : Nat
  goal : Nat
  mark : Chars
  lead : Nat
  full : Nat
  crown : Bool
  tagged : Bool
  split : Bool
  uniform : Bool

structure Word where
  text : Chars
  space : Nat
  opens : Bool
  period : Bool
  mark : Bool
  last : Bool

structure Placed where
  word : Word
  cost : Int
  count : Nat
  length : Nat

def square (n : Int) : Int := n * n

def offCost (n : Int) : Int := square (n * 10)

def raggedCost (n : Int) : Int := offCost n / 2

def startCost (before last : Option Word) (word : Word) : Int :=
  let behind : Int := match last with
    | none => 0
    | some last =>
        if last.period then (if last.last then -square 50 else square 600)
        else if last.mark then -square 40
        else if before.any (·.last) then square 200 / (last.text.length + 2)
        else 0
  let own : Int :=
    if word.opens then -square 40
    else if word.last then square 150 / (word.text.length + 2)
    else 0
  square 70 + behind + own

def breakCost (plan : Plan) (length : Nat) : List Placed → Int
  | [] => 0
  | next :: rest =>
      offCost ((plan.goal : Int) - length) +
        (if next.count = rest.length + 1 then 0 else raggedCost ((length : Int) - next.length)) +
        next.cost

def bestLine (plan : Plan) (best : Int × Nat × Nat) (count length space : Nat) :
    List Placed → Int × Nat × Nat
  | [] => best
  | next :: rest =>
      let length := length + space + next.word.text.length
      if plan.width ≤ length then best
      else
        let count := count + 1
        let cost := breakCost plan length rest
        bestLine plan (if cost < best.1 then (cost, count, length) else best) count length
          next.word.space rest

def place (plan : Plan) (others : Nat) (before last : Option Word) (indent : Nat) :
    List Word → List Placed
  | [] => []
  | word :: rest =>
      let after := place plan others last (some word) others rest
      let length := indent + word.text.length
      let (cost, count, length) :=
        bestLine plan (breakCost plan length after, 1, length) 1 length word.space after
      ⟨word, cost + startCost before last word, count, length⟩ :: after

def linesOf : Nat → List Placed → List (List Word)
  | 0, _ => []
  | _, [] => []
  | fuel + 1, first :: rest =>
      ((first :: rest).take first.count).map (·.word) ::
        linesOf fuel ((first :: rest).drop first.count)

/-! Reading -/

structure Place where
  rest : Chars
  column : Nat
  markColumn : Nat
  tabs : Bool
  others : Nat

def skipBlanks : Nat → Bool → Chars → Nat × Bool × Chars
  | column, tabs, ' ' :: rest => skipBlanks (column + 1) tabs rest
  | column, _, '\t' :: rest => skipBlanks ((column / 8 + 1) * 8) true rest
  | column, tabs, rest => (column, tabs, rest)

def skipMark : Nat → Chars → Chars → Nat × Bool × Chars
  | column, [], rest => (column, true, rest)
  | column, c :: mark, d :: rest =>
      if c = d then skipMark (column + 1) mark rest else (column, false, d :: rest)
  | column, _ :: _, [] => (column, false, [])

def startLine (plan : Plan) (place : Place) : Place :=
  let (column, tabs, rest) := skipBlanks 0 place.tabs place.rest
  if plan.mark.isEmpty then
    { place with rest := rest, column := column, markColumn := min plan.lead column, tabs := tabs }
  else
    let (behind, whole, left) := skipMark column plan.mark rest
    if whole then
      let (behind, tabs, left) := skipBlanks behind tabs left
      { place with rest := left, column := behind, markColumn := column, tabs := tabs }
    else { place with rest := left, column := behind, markColumn := column, tabs := tabs }

def Place.ended (place : Place) : Bool := place.rest.isEmpty || place.rest.head? = some '\n'

def isOneOf (signs : String) (c : Char) : Bool := c = '\x00' || signs.toList.contains c

def wordOf (text : Chars) (space : Nat) (endsLine uniform : Bool) : Word :=
  let inner := (text.drop 1).reverse.dropWhile (isOneOf ")]'\"")
  let period := isOneOf ".?!" (inner.headD (text.headD ' '))
  let last := text.getLastD ' '
  let sentence := period && (endsLine || 1 < space)
  let ends := sentence
  { text := text
    space := if endsLine || uniform then (if ends then 2 else 1) else space
    opens := isOneOf "(['`\"" (text.headD ' ')
    period := period
    mark := '!' ≤ last && last ≤ '~' && !last.isAlphanum
    last := ends }

def lineWords (plan : Plan) : Nat → Place → List Word × Place
  | 0, place => ([], place)
  | fuel + 1, place =>
      let text := place.rest.take 1 ++ (place.rest.drop 1).takeWhile fun c => !isSpaceChar c
      let start := place.column + text.length
      let (column, tabs, rest) := skipBlanks start place.tabs (place.rest.drop text.length)
      let place := { place with rest := rest, column := column, tabs := tabs }
      let word := wordOf text (column - start) place.ended plan.uniform
      let word := if rest.isEmpty then
          { word with last := true, space := 2 }
        else word
      if place.ended then ([word], place)
      else
        let (words, place) := lineWords plan fuel place
        (word :: words, place)

def takeLine (plan : Plan) (place : Place) : List Word × Place :=
  let (words, place) := lineWords plan (place.rest.length + 1) place
  (words, startLine plan { place with rest := place.rest.drop 1 })

def goesOn (plan : Plan) (markColumn : Nat) (place : Place) : Bool :=
  place.markColumn = markColumn && place.markColumn + plan.full ≤ place.column && !place.ended

def takeLines (plan : Plan) (markColumn : Nat) : Nat → Place → List Word × Place
  | 0, place => ([], place)
  | fuel + 1, place =>
      if goesOn plan markColumn place && place.column = place.others then
        let (words, place) := takeLine plan place
        let (more, place) := takeLines plan markColumn fuel place
        (words ++ more, place)
      else ([], place)

/-! Writing -/

def room (tabs : Bool) (column space : Nat) : Chars :=
  let target := column + space
  let stop := target / 8 * 8
  if tabs && column + 1 < stop then
    List.replicate (stop / 8 - column / 8) '\t' ++ List.replicate (target - stop) ' '
  else List.replicate space ' '

def lineText (plan : Plan) (tabs : Bool) (markColumn indent : Nat) (words : List Word) : Chars :=
  let column := markColumn + plan.mark.length
  let lead := room tabs 0 markColumn ++ plan.mark ++ room tabs column (indent - column)
  let rec go (column : Nat) : List Word → Chars
    | [] => []
    | [word] => word.text
    | word :: rest =>
        let column := column + word.text.length
        word.text ++ room tabs column word.space ++ go (column + word.space) rest
  lead ++ go (max column indent) words ++ ['\n']

def plainLine (plan : Plan) (place : Place) : Chars × Place :=
  let behind := place.rest.takeWhile (· ≠ '\n')
  let rest := place.rest.drop behind.length
  let lead :=
    if place.markColumn < place.column || !place.ended then
      let shown := plan.mark.take (place.column - place.markColumn)
      let column := place.markColumn + shown.length
      room place.tabs 0 place.markColumn ++ shown ++
        (if place.ended then [] else room place.tabs column (place.column - column)) ++
        (if place.rest.isEmpty && place.markColumn + plan.mark.length ≤ place.column then ['\n']
          else [])
    else []
  (lead ++ behind, { place with rest := rest })

def othersOf (plan : Plan) (initial others : Nat) (same : Bool) (column : Nat) : Nat :=
  if plan.split then initial
  else if plan.crown then (if same then column else initial)
  else if plan.tagged then
    if same && column ≠ initial then column
    else if others = initial then (if initial = 0 then 3 else 0)
    else others
  else initial

def paragraph (plan : Plan) (place : Place) : Chars × Place :=
  let markColumn := place.markColumn
  let initial := place.column
  let (words, place) := takeLine plan place
  let same := goesOn plan markColumn place
  let place := { place with others := othersOf plan initial place.others same place.column }
  let all := place.rest.length + 1
  let (words, place) :=
    if plan.split then (words, place)
    else if (plan.tagged && !plan.crown) && !(same && place.column ≠ initial) then (words, place)
    else
      let (more, place) := takeLines plan markColumn all place
      (words ++ more, place)
  let words := match words.reverse with
    | [] => []
    | last :: before => ({ last with period := true, last := true } :: before).reverse
  let lines := linesOf (words.length + 1) (Fill.place plan place.others none none initial words)
  let text := (lines.zipIdx).flatMap fun (line, number) =>
    lineText plan place.tabs markColumn (if number = 0 then initial else place.others) line
  (text, place)

def through (plan : Plan) : Nat → Place → Chars
  | 0, _ => []
  | fuel + 1, place =>
      if place.ended || place.markColumn < plan.lead ||
          place.column < place.markColumn + plan.full then
        let (line, left) := plainLine plan place
        if left.rest.isEmpty then line
        else line ++ '\n' :: through plan fuel (startLine plan { left with rest := left.rest.drop 1 })
      else
        let (text, place) := paragraph plan place
        text ++ through plan fuel place

def all (plan : Plan) (text : Chars) : Chars :=
  through plan (text.length + 2) (startLine plan ⟨text, 0, 0, false, 0⟩)

end Fill

def fillWidth (name : Chars) (most : Nat) (text : Chars) : Action Nat := do
  let width ← amountOf name "" "width" text
  if most < width then
    giveUp name ("invalid width: ".toList ++ quoted text ++
      ": Numerical result out of range".toList) 1
  else pure width

def fmt : Tool := fun name words =>
  let old := match words with
    | ('-' :: d :: rest) :: _ => if d.isDigit then some (d :: rest) else none
    | _ => none
  let words := if old.isSome then words.drop 1 else words
  match words.findSome? fun word => match word with
      | '-' :: d :: _ => if d.isDigit then some d else none
      | _ => none with
  | some digit => do
      complain name ("invalid option -- ".toList ++ digit :: ("; -WIDTH is recognized only when " ++
        "it is the first\noption; use -w N instead").toList)
      complainOfHelp name
      pure 1
  | none =>
      withOptions
        { letters := "cstuw:p:g:", mixed := true
          words := [("crown-margin", "c"), ("prefix:", "p"), ("split-only", "s"),
            ("tagged-paragraph", "t"), ("uniform-spacing", "u"), ("width:", "w"),
            ("goal:", "g")] } 1
        (fun name asked => do
          let widthText := (asked.value? "w").orElse fun _ => old
          let width ← match widthText with
            | some text => fillWidth name 2500 text
            | none => pure 75
          let goal ← match asked.value? "g" with
            | some text => fillWidth name width text
            | none => pure (width * 187 / 200)
          let width := if widthText.isNone && asked.has "g" then goal + 10 else width
          let given := (asked.value? "p").getD []
          let behind := given.dropWhile (· = ' ')
          let plan : Fill.Plan := {
            width := width, goal := goal
            mark := (behind.reverse.dropWhile (· = ' ')).reverse
            lead := given.length - behind.length, full := behind.length
            crown := asked.has "c", tagged := asked.has "t"
            split := asked.has "s", uniform := asked.has "u" }
          forEach (filesOf asked) fun file => do
            match ← slurp file with
            | .ok text =>
                let _ ← put (Fill.all plan text)
                pure true
            | .error .isDirectory =>
                complain name "read error".toList
                pure false
            | .error errno =>
                complain name ("cannot open ".toList ++ shellQuoted file ++
                  " for reading: ".toList ++ errno.text.toList)
                pure false)
        name words

end BatchLaunch.Tools
