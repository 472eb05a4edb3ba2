import BatchLaunch.Tools.Mode
import BatchLaunch.Tools.Names

/-!
Names that are good on every system, or on this one.
-/
namespace BatchLaunch.Tools

open Host (Action Errno)

def isPortable (c : Char) : Bool :=
  c.isAlphanum || c = '.' || c = '_' || c = '-' || c = '/'

def portableLimits : Nat × Nat := (255, 14)

def partsOfPath (file : Chars) : List Chars :=
  (Text.partsAt '/' file).filter (!List.isEmpty ·)

def tooLong (limit : Nat) (text : Chars) (what : String) (shown : Chars) : Option Chars :=
  let length := (Text.octetsOf text).length
  if limit < length then
    some ("limit ".toList ++ natChars limit ++ " exceeded by length ".toList ++ natChars length ++
      " of ".toList ++ what.toList ++ ' ' :: shown)
  else none

def formFault (basic extra : Bool) (file : Chars) : Option Chars :=
  if extra && (partsOfPath file).any fun part => part.head? = some '-' then
    some ("leading '-' in a component of file name ".toList ++ shellQuoted file)
  else if (basic || extra) && file.isEmpty then some "empty file name".toList
  else if basic then
    match file.find? (!isPortable ·) with
    | some c => some ("nonportable character ".toList ++ quoted [c] ++ " in file name ".toList ++
        shellQuoted file)
    | none => none
  else none

def lengthFault (limits : Nat × Nat) (file : Chars) : Option Chars :=
  match tooLong limits.1 file "file name" (shellQuoted file) with
  | some fault => some fault
  | none => (partsOfPath file).findSome? fun part =>
      tooLong limits.2 part "file name component" (quoted part)

def pathchkOptions : OptionTable := ⟨"pP", [("portability", "portability")], true⟩

def pathchk : Tool := withOptions pathchkOptions 1 fun name asked => do
  needOperand name asked 1
  let every := asked.has "portability"
  let basic := asked.has "p" || every
  forEach asked.operands fun file => do
    let fault ← match formFault basic (asked.has "P" || every) file with
      | some fault => pure (some fault)
      | none =>
          if basic then pure (lengthFault portableLimits file)
          else
            match ← infoAt file false with
            | .ok _ => pure none
            | .error errno =>
                if errno = .noEntry && !file.isEmpty then pure none
                else if errno = .nameTooLong then
                  pure (lengthFault (Host.Files.pathLimit, Host.Files.nameLimit) file)
                else pure (some (nameSafe file ++ ": ".toList ++ errno.text.toList))
    match fault with
    | some fault =>
        complain name fault
        pure false
    | none => pure true

end BatchLaunch.Tools
