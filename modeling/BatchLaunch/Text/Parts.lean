/-!
Cutting text at a separator.
-/
namespace BatchLaunch.Text

/-- The stretches between separators, the empty ones too. There is always one more than there are
separators. -/
def partsAt (separator : Char) : List Char → List (List Char)
  | [] => [[]]
  | c :: rest =>
      if c = separator then [] :: partsAt separator rest
      else
        match partsAt separator rest with
        | [] => [[c]]
        | first :: others => (c :: first) :: others

def cutAt (separator : Char) (text : String) : List String :=
  (partsAt separator text.toList).map String.ofList

def beforeEmptyLine : List Char → List Char
  | [] => []
  | '\n' :: '\n' :: _ => []
  | c :: rest => c :: beforeEmptyLine rest

def firstParagraph (text : String) : String := String.ofList (beforeEmptyLine text.toList)

end BatchLaunch.Text
