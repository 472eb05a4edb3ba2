import BatchLaunch.Tools.Order

/-!
Programs that put lines and words into another order: one that comes from what precedes what, and
one that is as good as any other.
-/
namespace BatchLaunch.Tools

open Host (Action Errno)

/-! What precedes what -/

structure Knot where
  name : Chars
  count : Nat
  after : List Chars
  ahead : Option Chars
  written : Bool
  deriving DecidableEq, Repr

abbrev Web := List Knot

namespace Web

def knot? (web : Web) (name : Chars) : Option Knot := web.find? (·.name = name)

def change (web : Web) (name : Chars) (edit : Knot → Knot) : Web :=
  web.map fun knot => if knot.name = name then edit knot else knot

/-- Takes up that one word comes before another. A word does not come before itself. -/
def relate (web : Web) (first second : Chars) : Web :=
  if first = second then web
  else
    (web.change second fun knot => { knot with count := knot.count + 1 }).change first
      fun knot => { knot with after := second :: knot.after }

def relateAll (web : Web) : List Chars → Web
  | first :: second :: rest => relateAll (web.relate first second) rest
  | _ => web

def ofWords (words : List Chars) : Web :=
  relateAll ((sortedNames words.eraseDups).map fun name => ⟨name, 0, [], none, false⟩) words

def free (web : Web) : List Chars :=
  (web.filter fun knot => knot.count = 0 && !knot.written).map (·.name)

def release (web : Web) (after : List Chars) : Web × List Chars :=
  after.foldl (fun (web, freed) name =>
    let left := (web.knot? name).elim 0 fun knot => knot.count - 1
    (web.change name fun knot => { knot with count := left },
      if left = 0 then freed ++ [name] else freed)) (web, [])

/-- Writes words as they become free, the first ones first. -/
def drain : Nat → Web → List Chars → Web × List Chars
  | 0, web, _ => (web, [])
  | _, web, [] => (web, [])
  | fuel + 1, web, name :: queue =>
      let after := (web.knot? name).elim [] Knot.after
      let (web, freed) := (web.change name fun knot => { knot with written := true }).release after
      let (web, found) := drain fuel web (queue ++ freed)
      (web, name :: found)

def way (web : Web) (last : Chars) : Nat → Chars → List Chars
  | 0, _ => []
  | fuel + 1, name =>
      if name = last then [name]
      else
        match (web.knot? name).bind Knot.ahead with
        | some next => name :: way web last fuel next
        | none => [name]

/-- Follows what precedes what backwards by one word: the start of the way so far, and the words of
a circle once the way has come around. One relation of that is given up. -/
def trace (web : Web) (start : Option Chars) (knot : Knot) :
    Web × Option Chars × Option (List Chars) :=
  if knot.count = 0 then (web, start, none)
  else
    match start with
    | none => (web, some knot.name, none)
    | some target =>
        if !knot.after.contains target then (web, start, none)
        else if knot.ahead.isNone then
          (web.change knot.name fun knot => { knot with ahead := some target }, some knot.name, none)
        else
          let circle := web.way knot.name web.length target
          let opened := (web.change knot.name fun knot =>
            { knot with after := knot.after.erase target }).change target
            fun knot => { knot with count := knot.count - 1 }
          (opened.map fun knot => { knot with ahead := none }, none, some circle)

def circle : Nat → Web → Option Chars → Web × List Chars
  | 0, web, _ => (web, [])
  | fuel + 1, web, start =>
      let (web, start, found) := web.foldl (fun (web, start, found) knot =>
        match found with
        | some _ => (web, start, found)
        | none => trace web start ((web.knot? knot.name).getD knot))
        ((web, start, none) : Web × Option Chars × Option (List Chars))
      match found with
      | some words => (web, words)
      | none => circle fuel web start

end Web

/-- Writes all words in order; where they go around in a circle, that is complained of. -/
def writeOrdered (name file : Chars) : Nat → Web → Action Nat
  | 0, _ => pure 1
  | fuel + 1, web => do
      let relations := web.foldl (fun n knot => n + knot.after.length + 1) 0
      let (web, found) := web.drain (relations + 1) web.free
      let _ ← put (unlines found)
      if web.all Knot.written then pure 0
      else
        complain name (nameSafe file ++ ": input contains a loop:".toList)
        let (web, words) := web.circle (2 * web.length + 2) none
        let _ ← words.foldlM (fun _ word => complain name word) ()
        let _ ← writeOrdered name file fuel web
        pure 1

def tsort : Tool := withOptions ⟨"", [], true⟩ 1 fun name asked => do
  refuseExtra name asked 1 1 quoted
  let file := asked.operands.headD ['-']
  let text ← textOrGiveUp name file 1
  let words := (text.splitBy fun a b => isSpaceChar a = isSpaceChar b).filter fun word =>
    !word.all isSpaceChar
  if words.length % 2 = 1 then
    giveUp name (nameSafe file ++ ": input contains an odd number of tokens".toList) 1
  writeOrdered name file (words.length + 1) (Web.ofWords words)

/-! An order like any other -/

def shufOptions : OptionTable :=
  ⟨"ei:n:o:rz", [("echo", "e"), ("input-range:", "i"), ("head-count:", "n"), ("output:", "o"),
    ("random-source:", "random"), ("repeat", "r"), ("zero-terminated", "z")], true⟩

def rangeOf? (text : Chars) : Option (Nat × Nat) :=
  let first := text.takeWhile (· ≠ '-')
  match natural? first, natural? (text.drop (first.length + 1)) with
  | some first, some last => if first ≤ last + 1 then some (first, last) else none
  | _, _ => none

/-- Lines in some order. None is better than another, so they keep the one that they have. -/
def shuf : Tool := withOptions shufOptions 1 fun name asked => do
  let counts ← (asked.values "n").mapM fun text =>
    if text.all Char.isDigit && !text.isEmpty then pure ((natural? text).getD 0)
    else giveUp name ("invalid line count: ".toList ++ quoted text) 1
  let ranges ← (asked.values "i").mapM fun text =>
    match rangeOf? text with
    | some range => pure range
    | none => giveUp name ("invalid input range: ".toList ++ quoted text) 1
  if 1 < ranges.length then giveUp name "multiple -i options specified".toList 1
  if asked.has "e" && asked.has "i" then
    giveUpUse name "cannot combine -e and -i options".toList 1
  if !asked.has "e" then refuseExtra name asked (if asked.has "i" then 0 else 1) 1 quoted
  let ending := endingOf asked
  let count := counts.min?
  let records ← match ranges with
    | (first, last) :: _ =>
        let all := last + 1 - first
        pure ((List.range (min all (count.getD all))).map fun n => natChars (first + n))
    | [] => if asked.has "e" then pure asked.operands else do
        let text ← textOrGiveUp name (asked.operands.headD ['-']) 1
        pure (recordsAt ending text)
  if asked.has "r" && records.isEmpty && count ≠ some 0 then
    giveUp name "no lines to repeat".toList 1
  let chosen := if asked.has "r" then
      (List.replicate (count.getD 1) records).flatten.take (count.getD 1)
    else records.take (count.getD records.length)
  let text := endEach ending chosen
  match asked.value? "o" with
  | none =>
      let _ ← put text
      pure 0
  | some file =>
      match ← Action.call (.open (path file) .write) with
      | .done target =>
          let _ ← Action.write target (Text.octetsOf text)
          pure 0
      | .refused errno => giveUp name (nameSafe file ++ ": ".toList ++ errno.text.toList) 1
      | _ => pure 1

end BatchLaunch.Tools
