/-!
Reading decimal numbers of a bounded range, and what is wrong with texts that are none. Of several
faults the first from the left counts.
-/
namespace BatchLaunch.Text

inductive NumberFault where
  | empty
  | invalidDigit
  | tooLarge
  | tooSmall
  deriving DecidableEq, Repr

def NumberFault.message : NumberFault → String
  | empty => "cannot parse integer from empty string"
  | invalidDigit => "invalid digit found in string"
  | tooLarge => "number too large to fit in target type"
  | tooSmall => "number too small to fit in target type"

namespace Number

def digits (limit : Nat) (excess : NumberFault) (value : Nat) : List Char → Except NumberFault Nat
  | [] => .ok value
  | c :: rest =>
      if c.isDigit then
        let next := value * 10 + (c.toNat - '0'.toNat)
        if next ≤ limit then digits limit excess next rest else .error excess
      else .error .invalidDigit

def magnitude (limit : Nat) (excess : NumberFault) : List Char → Except NumberFault Nat
  | [] => .error .invalidDigit
  | text => digits limit excess 0 text

def unsigned (limit : Nat) (text : String) : Except NumberFault Nat :=
  match text.toList with
  | [] => .error .empty
  | '+' :: rest => magnitude limit .tooLarge rest
  | chars => magnitude limit .tooLarge chars

def signed (limit : Nat) (text : String) : Except NumberFault Int :=
  match text.toList with
  | [] => .error .empty
  | '+' :: rest => (magnitude limit .tooLarge rest).map Int.ofNat
  | '-' :: rest => (magnitude (limit + 1) .tooSmall rest).map fun n => -(n : Int)
  | chars => (magnitude limit .tooLarge chars).map Int.ofNat

end Number
end BatchLaunch.Text
