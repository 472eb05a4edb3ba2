import BatchLaunch.Tools.Options
import BatchLaunch.Tools.Quote

/-!
Files that are read, one after the other, and the lines in them.
-/
namespace BatchLaunch.Tools

open Host (Action Call Reply Errno Descriptor)

def isBlankChar (c : Char) : Bool := c = ' ' || c = '\t'

def isSpaceChar (c : Char) : Bool := " \t\n\x0b\x0c\r".toList.contains c

def padLeft (width : Nat) (text : Chars) : Chars :=
  List.replicate (width - text.length) ' ' ++ text

def padRight (width : Nat) (text : Chars) : Chars :=
  text ++ List.replicate (width - text.length) ' '

def natChars (n : Nat) : Chars := Nat.toDigits 10 n

def intChars (n : Int) : Chars := (toString n).toList

def join (between : Chars) (texts : List Chars) : Chars := List.intercalate between texts

def recordsWith (ending : Char) (text : Chars) : List Chars :=
  match (Text.partsAt ending text).reverse with
  | [] => []
  | last :: rest => rest.reverse.map (· ++ [ending]) ++ (if last.isEmpty then [] else [last])

def recordsAt (ending : Char) (text : Chars) : List Chars :=
  match (Text.partsAt ending text).reverse with
  | [] :: rest => rest.reverse
  | parts => parts.reverse

def fullLines (text : Chars) : List Chars := recordsWith '\n' text

def endEach (ending : Char) (records : List Chars) : Chars :=
  records.flatMap fun record => record ++ [ending]

def endingOf (asked : Asked) : Char := if asked.has "z" then '\x00' else '\n'

def filesOf (asked : Asked) : List Chars :=
  if asked.operands.isEmpty then [['-']] else asked.operands

def shownName (file : Chars) : Chars := if file = ['-'] then "standard input".toList else file

def complainOfFile (name file : Chars) (errno : Errno) : Action Unit :=
  complainOf name (nameSafe file) errno

def sizeIfOutput? (source : Descriptor) : Action (Option Nat) := do
  let about (descriptor : Descriptor) : Action Reply :=
    Action.call (.info (path ("/dev/fd/".toList ++ natChars descriptor)) true)
  match ← about source, ← about output with
  | .info read, .info written =>
      let same := source ≠ output && read.kind = .file && read.node = written.node
      pure (if same then some read.size else none)
  | _, _ => pure none

def textOrGiveUp (name file : Chars) (status : Nat) : Action Chars := do
  match ← slurp file with
  | .ok text => pure text
  | .error errno => giveUp name (nameSafe file ++ ": ".toList ++ errno.text.toList) status

def amountOf (name : Chars) (admitted : String) (what : String) (text : Chars) : Action Nat :=
  match amount? admitted text with
  | .ok n => pure n
  | .error fault =>
      giveUp name ("invalid ".toList ++ what.toList ++ ": ".toList ++ quoted text ++ fault) 1

def argumentOf (name : Chars) (option admitted : String) (status : Nat) (text : Chars) :
    Action Nat :=
  match amount? admitted text with
  | .ok n => pure n
  | .error fault =>
      let shown := '\x27' :: text ++ ['\x27']
      let digits := text.dropWhile isSpaceChar
      let digits := if digits.head? = some '+' then digits.drop 1 else digits
      giveUp name (if !fault.isEmpty then option.toList ++ " argument ".toList ++ shown ++
          " too large".toList
        else if digits.head?.any Char.isDigit then "invalid suffix in ".toList ++ option.toList ++
          " argument ".toList ++ shown
        else "invalid ".toList ++ option.toList ++ " argument ".toList ++ shown) status

/-- What a word means that should be one of some, of which several may mean the same. It may be cut
short as long as it is clear what it means. The program ends if it is not. -/
def choiceOf {α : Type} (name : Chars) (option : String) (choices : List (List String × α))
    (text : Chars) : Action α := do
  let exact := choices.filter fun choice => choice.1.any fun word => word.toList = text
  let fitting := choices.filter fun choice => choice.1.any fun word => text.isPrefixOf word.toList
  match exact, fitting with
  | choice :: _, _ | [], [choice] => pure choice.2
  | [], found =>
      let fault := if found.isEmpty then "invalid" else "ambiguous"
      complain name (fault.toList ++ " argument ".toList ++ quoted text ++ " for ".toList ++
        quoted option.toList)
      let valid := choices.flatMap fun choice =>
        "  - ".toList ++ join ", ".toList (choice.1.map fun word => quoted word.toList) ++ ['\n']
      let _ ← Action.write errors (Text.octetsOf ("Valid arguments are:\n".toList ++ valid))
      complainOfHelp name
      Action.exit 1

end BatchLaunch.Tools
