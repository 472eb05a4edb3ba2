import BatchLaunch.Text.BinaryReal
import BatchLaunch.Tools.Awk.Matcher

/-!
The marks that a script is written with.
-/
namespace BatchLaunch.Tools.Awk

open Text (BinaryReal Precision)

inductive Token where
  | number (value : BinaryReal) (written : Chars)
  | text (text : Chars)
  | regex (text : Chars)
  | name (name : String)
  | called (name : String)
  | builtin (name : String)
  | word (word : String)
  | sign (text : String)
  | newline
  deriving DecidableEq, Repr

namespace Token

def words : List String := ["BEGIN", "END", "break", "continue", "delete", "do", "else", "exit", "for",
  "function", "getline", "if", "in", "next", "nextfile", "print", "printf", "return", "while"]

def builtins : List String := ["atan2", "close", "cos", "exp", "fflush", "gsub", "index", "int",
  "length", "log", "match", "rand", "sin", "split", "sprintf", "sqrt", "srand", "sub", "substr",
  "system", "tolower", "toupper"]

def signs : List String := ["&&", "||", "++", "--", "+=", "-=", "*=", "/=", "%=", "^=", "==", "<=",
  ">=", "!=", "!~", ">>", "(", ")", "[", "]", "\x7b", "\x7d", ";", ",", "+", "-", "*", "/", "%", "^",
  "!", "<", ">", "|", "?", ":", "~", "$", "="]

def shown : Token → Chars
  | number _ written => written
  | text contents => contents
  | regex contents => '/' :: contents ++ ['/']
  | name known | called known | builtin known | word known => known.toList
  | sign written => written.toList
  | newline => "end of line".toList

def isOperand : Token → Bool
  | number _ _ | text _ | name _ | builtin _ => true
  | sign written => [")", "]", "++", "--", "$"].contains written
  | _ => false

end Token

abbrev Placed := Token × Nat

def resolved : Nat → Chars → Chars
  | 0, text => text
  | fuel + 1, text =>
      match text with
      | [] => []
      | '\\' :: '\n' :: rest => resolved fuel rest
      | '\\' :: c :: rest =>
          if "\"\\/abfnrtv01234567".toList.contains c then
            let (found, behind) := escaped (c :: rest)
            found :: resolved fuel behind
          else '\\' :: c :: resolved fuel rest
      | c :: rest => c :: resolved fuel rest

def quotedPart? : Chars → Option (Chars × Chars)
  | [] => none
  | '"' :: rest => some ([], rest)
  | '\n' :: _ => none
  | '\\' :: c :: rest => (quotedPart? rest).map fun (part, behind) => ('\\' :: c :: part, behind)
  | c :: rest => (quotedPart? rest).map fun (part, behind) => (c :: part, behind)

/-- What stands before the slash that ends an expression, and what behind it. No slash between
brackets does; a bracket right behind the opening one does not close it. -/
def regexPart? : Nat → Bool → Chars → Option (Chars × Chars)
  | 0, _, _ => none
  | fuel + 1, boxed, text =>
      let after (part : Chars) (boxed : Bool) (rest : Chars) : Option (Chars × Chars) :=
        (regexPart? fuel boxed rest).map fun (more, behind) => (part ++ more, behind)
      match text with
      | [] | '\n' :: _ => none
      | '\\' :: '/' :: rest => after ['/'] boxed rest
      | '\\' :: c :: rest => after ['\\', c] boxed rest
      | '[' :: rest =>
          if boxed then after ['['] true rest
          else
            match rest with
            | '^' :: ']' :: more => after ['[', '^', ']'] true more
            | ']' :: more => after ['[', ']'] true more
            | more => after ['['] true more
      | c :: rest =>
          if c = '/' && !boxed then some ([], rest)
          else after [c] (boxed && c ≠ ']') rest

def isNameStart (c : Char) : Bool := c.isAlpha || c = '_'

def isNamePart (c : Char) : Bool := c.isAlphanum || c = '_'

inductive Scanned where
  | found (token : Token) (rest : Chars) (lines : Nat)
  | skipped (rest : Chars) (lines : Nat)
  | fault (text : Chars)
  | unknown (c : Char)

def scan (before : Option Token) (text : Chars) : Scanned :=
  match text with
  | [] => .skipped [] 0
  | '\\' :: '\n' :: rest => .skipped rest 1
  | '\\' :: '\r' :: '\n' :: rest => .skipped rest 1
  | '#' :: rest => .skipped (rest.dropWhile (· ≠ '\n')) 0
  | '\n' :: rest => .found .newline rest 1
  | '"' :: rest =>
      match quotedPart? rest with
      | some (part, behind) =>
          .found (.text (resolved (part.length + 1) part)) behind (part.filter (· = '\n')).length
      | none => .fault ("runaway string constant ".toList ++ text.take 10 ++ " ...".toList)
  | c :: rest =>
      if c = ' ' || c = '\t' || c = '\r' then .skipped rest 0
      else if c = '/' && !before.any Token.isOperand then
        match regexPart? (rest.length + 1) false rest with
        | some (part, behind) => .found (.regex part) behind 0
        | none => .fault ("runaway regular expression ".toList ++
            (text.takeWhile (· ≠ '\n')).take 10 ++ " ...".toList)
      else if c.isDigit || (c = '.' && rest.head?.any Char.isDigit) then
        match BinaryReal.unsigned? .double false text with
        | some (value, behind) =>
            .found (.number value (text.take (text.length - behind.length))) behind 0
        | none => .unknown c
      else if isNameStart c then
        let name := text.takeWhile isNamePart
        let behind := text.drop name.length
        let word := String.ofList name
        .found (if Token.words.contains word then .word word
          else if Token.builtins.contains word then .builtin word
          else if behind.head? = some '(' then .called word else .name word) behind 0
      else
        match Token.signs.find? fun sign => sign.toList.isPrefixOf text with
        | some sign => .found (.sign sign) (text.drop sign.length) 0
        | none => .unknown c

def faultAt (line : Nat) (text : Chars) : Chars :=
  "line ".toList ++ Nat.toDigits 10 line ++ ": ".toList ++ text

def tokens : Nat → Option Token → Nat → Chars → Except Chars (List Placed)
  | 0, _, _, _ => .ok []
  | fuel + 1, before, line, text =>
      if text.isEmpty then .ok []
      else
        match scan before text with
        | .skipped rest lines => tokens fuel before (line + lines) rest
        | .found token rest lines =>
            (tokens fuel (some token) (line + lines) rest).map ((token, line) :: ·)
        | .fault text => .error (faultAt line text)
        | .unknown c =>
            .error (Nat.toDigits 10 line ++ ": unexpected character '".toList ++ [c, '\x27'])

end BatchLaunch.Tools.Awk
