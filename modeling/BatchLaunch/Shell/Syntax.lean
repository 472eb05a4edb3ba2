import BatchLaunch.Text.OctetChars

/-!
Commands of the shell language as they are written: words in pieces, before anything is expanded.
-/
namespace BatchLaunch.Shell

/-- What an expansion in braces does with its parameter. With `colon` a parameter that is empty
counts as unset. -/
inductive Use where
  | value
  | length
  | default (colon : Bool)
  | assign (colon : Bool)
  | require (colon : Bool)
  | alternative (colon : Bool)
  | dropEnd (longest : Bool)
  | dropStart (longest : Bool)
  | invalid
  deriving DecidableEq, Repr

inductive RedirectKind where
  | input
  | output
  | clobber
  | append
  | readWrite
  | duplicate
  | hereText
  deriving DecidableEq, Repr

mutual

inductive Piece where
  | plain (c : Char)
  | quoted (c : Char)
  | quotes
  | parameter (name : Chars) (use : Use) (word : List Piece) (inQuotes : Bool)
  | substitution (body : Command) (inQuotes : Bool)
  | arithmetic (word : List Piece) (inQuotes : Bool)

inductive Command where
  | simple (line : Nat) (assignments : List (Chars × List Piece)) (words : List (List Piece))
      (redirects : List Redirect)
  | pipeline (parts : List Command)
  | negate (body : Command)
  | both (first second : Command)
  | either (first second : Command)
  | sequence (parts : List Command)
  | background (body : Command) (redirects : List Redirect)
  | subshell (line : Nat) (body : Command) (redirects : List Redirect)
  | branch (condition yes no : Command)
  | loop (untilTrue : Bool) (condition body : Command)
  | each (line : Nat) (name : Chars) (words : Option (List (List Piece))) (body : Command)
  | select (line : Nat) (word : List Piece) (arms : List Arm)
  | define (name : Chars) (body : Command)
  | redirected (line : Nat) (body : Command) (redirects : List Redirect)

inductive Redirect where
  | mk (descriptor : Nat) (kind : RedirectKind) (target : List Piece)

inductive Arm where
  | mk (patterns : List (List Piece)) (body : Command)

end

abbrev Word := List Piece

def plain? : Piece → Option Char
  | .plain c => some c
  | _ => none

def literal? (word : Word) : Option Chars := word.mapM plain?

def Command.nothing : Command := .sequence []

def isNameStart (c : Char) : Bool := c.isAlpha || c = '_'

def isNameChar (c : Char) : Bool := c.isAlphanum || c = '_'

def isName : Chars → Bool
  | [] => false
  | c :: rest => isNameStart c && rest.all isNameChar

end BatchLaunch.Shell
