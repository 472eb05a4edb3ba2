import BatchLaunch.Text.BinaryReal.Functions
import BatchLaunch.Text.Regex

/-!
Scripts that look for patterns in records: what they consist of.
-/
namespace BatchLaunch.Tools.Awk

open Text (BinaryReal Regex)

abbrev Name := String

inductive Operation where
  | add
  | subtract
  | multiply
  | divide
  | remainder
  | power
  deriving DecidableEq, Repr

inductive Relation where
  | less
  | atMost
  | same
  | different
  | atLeast
  | greater
  deriving DecidableEq, Repr

inductive SinkKind where
  | file
  | append
  | command
  deriving DecidableEq, Repr

mutual

inductive Place where
  | named (name : Name)
  | element (array : Name) (key : List Expr)
  | field (number : Expr)

inductive Expr where
  | number (value : BinaryReal)
  | text (text : Chars)
  | regex (regex : Regex)
  | place (place : Place)
  | grouped (inside : Expr)
  | assign (place : Place) (operation : Option Operation) (value : Expr)
  | step (place : Place) (up gives : Bool)
  | plus (inside : Expr)
  | minus (inside : Expr)
  | not (inside : Expr)
  | operate (operation : Operation) (first second : Expr)
  | relate (relation : Relation) (first second : Expr)
  | concat (first second : Expr)
  | both (first second : Expr)
  | either (first second : Expr)
  | choose (condition yes no : Expr)
  | fits (negated : Bool) (text pattern : Expr)
  | within (key : List Expr) (array : Name)
  | call (function : Name) (args : List Expr)
  | builtin (name : Name) (args : List Expr)
  | readMain (target : Option Place)
  | readFile (file : Expr) (target : Option Place)
  | readCommand (command : Expr) (target : Option Place)

end

inductive Statement where
  | simple (expr : Expr)
  | print (args : List Expr) (sink : Option (SinkKind × Expr))
  | printf (args : List Expr) (sink : Option (SinkKind × Expr))
  | block (body : List Statement)
  | branch (condition : Expr) (yes : Statement) (no : Option Statement)
  | whileDo (condition : Expr) (body : Statement)
  | doWhile (body : Statement) (condition : Expr)
  | forDo (first condition step : Option Expr) (body : Statement)
  | forEach (name array : Name) (body : Statement)
  | next
  | nextFile
  | exit (code : Option Expr)
  | giveBack (value : Option Expr)
  | leave
  | again
  | delete (array : Name) (key : Option (List Expr))

inductive Pattern where
  | atStart
  | atEnd
  | always
  | when (condition : Expr)
  | between (first last : Expr)

structure Rule where
  pattern : Pattern
  body : Option (List Statement)

structure Function where
  name : Name
  params : List Name
  body : List Statement

structure Script where
  rules : List Rule
  functions : List Function

end BatchLaunch.Tools.Awk
