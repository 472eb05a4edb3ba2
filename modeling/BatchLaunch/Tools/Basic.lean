import BatchLaunch.Host.Program
import BatchLaunch.Text.OctetChars

/-!
What the installed programs have in common: words in, text out, and a status.
-/
namespace BatchLaunch.Tools

open Host (Action Call Reply Errno Descriptor)

abbrev Tool := Chars → List Chars → Action Nat

def output : Descriptor := 1

def errors : Descriptor := 2

def put (text : Chars) : Action Bool := Action.write output (Text.octetsOf text)

def complain (name text : Chars) : Action Unit := do
  let _ ← Action.write errors (Text.octetsOf (name ++ ": ".toList ++ text ++ ['\n']))
  pure ()

def complainOfHelp (name : Chars) : Action Unit := do
  let _ ← Action.write errors (Text.octetsOf
    ("Try '".toList ++ name ++ " --help' for more information.\n".toList))

def complainOfUse (name text : Chars) : Action Unit := do
  complain name text
  complainOfHelp name

def complainOf (name path : Chars) (errno : Errno) : Action Unit :=
  complain name (path ++ ": ".toList ++ errno.text.toList)

def forEach (words : List Chars) (act : Chars → Action Bool) : Action Nat := do
  match words with
  | [] => pure 0
  | word :: rest =>
      let fine ← act word
      let status ← forEach rest act
      pure (if fine then status else 1)

def path (word : Chars) : Octets := Text.octetsOf word

def openInput (word : Chars) : Action (Except Errno Descriptor) := do
  if word = ['-'] then pure (.ok 0)
  else
    match ← Action.call (.open (path word) .read) with
    | .done descriptor => pure (.ok descriptor)
    | .refused errno => pure (.error errno)
    | _ => pure (.error .badFile)

def blockLimit : Nat := 100000

def slurp (word : Chars) : Action (Except Errno Chars) := do
  match ← openInput word with
  | .error errno => pure (.error errno)
  | .ok descriptor =>
      let contents ← Action.readAll descriptor blockLimit
      if descriptor ≠ 0 then
        let _ ← Action.call (.close descriptor)
      pure (contents.map Text.charsOf)

def lines (text : Chars) : List Chars :=
  match (Text.partsAt '\n' text).reverse with
  | [] :: rest => rest.reverse
  | parts => parts.reverse

def unlines (parts : List Chars) : Chars := parts.flatMap fun line => line ++ ['\n']

def natural? (text : Chars) : Option Nat :=
  if text.isEmpty || !text.all Char.isDigit then none
  else some (text.foldl (fun n c => n * 10 + (c.toNat - '0'.toNat)) 0)

def integer? : Chars → Option Int
  | '-' :: rest => (natural? rest).map fun n => -(n : Int)
  | '+' :: rest => (natural? rest).map Int.ofNat
  | text => (natural? text).map Int.ofNat

end BatchLaunch.Tools
