import BatchLaunch.Decomposition
import BatchLaunch.Yaml.Document

/-!
Why a configuration cannot be had, and in which words that is said.
-/
namespace BatchLaunch

namespace ShapeFault

inductive Step where
  | key (name : String)
  | entry (index : Nat)
  deriving DecidableEq, Repr

/-- What a value that is no part of a configuration is rejected for. A value of another kind than
the one expected is told by the item that it starts with. -/
inductive Mistake where
  | missingField (name : String)
  | unknownField (name : String) (known : List String)
  | unknownDecomposition (text : String)
  | duplicateField (name : String)
  | invalidType (found : Yaml.Item) (expected : String)
  | invalidValue (found : Yaml.Item) (expected : String)
  deriving DecidableEq, Repr

def inTicks (text : String) : String := "\x60" ++ text ++ "\x60"

def choices (names : List String) : String := ", ".intercalate (names.map inTicks)

def Mistake.message : Mistake → String
  | missingField name => "missing field " ++ inTicks name
  | unknownField name known =>
      "unknown field " ++ inTicks name ++ ", expected one of " ++ choices known
  | unknownDecomposition text =>
      "unknown variant " ++ inTicks text ++ ", expected one of " ++
        choices (Decomposition.all.map Decomposition.tag)
  | duplicateField name => "duplicate field " ++ inTicks name
  | invalidType _ _ => "invalid type"
  | invalidValue _ _ => "invalid value"

end ShapeFault

/-- What is wrong with a well-formed document that is no configuration, and the way from its root to
the value that is wrong. What is wrong with a key is so with its mapping. -/
structure ShapeFault where
  path : List ShapeFault.Step
  mistake : ShapeFault.Mistake
  deriving DecidableEq, Repr

namespace ShapeFault

def under (step : Step) (fault : ShapeFault) : ShapeFault :=
  { fault with path := step :: fault.path }

def message (fault : ShapeFault) : String := fault.mistake.message

end ShapeFault

inductive ParseFault where
  /-- The text is no single YAML document. -/
  | malformed
  | shape (fault : ShapeFault)
  deriving DecidableEq, Repr

def ParseFault.under (step : ShapeFault.Step) : ParseFault → ParseFault
  | malformed => malformed
  | shape fault => shape (fault.under step)

inductive ConfigError where
  | noFile (path : String)
  | unreadable (path : String)
  | unparsable (fault : ParseFault)
  | failedChecks (problems : Nat)
  deriving DecidableEq, Repr

def ConfigError.message : ConfigError → String
  | noFile path => "File not found: " ++ path
  | failedChecks problems =>
      "Preflight checks failed with " ++ toString problems ++ " problem(s)"
  | unreadable path => "Failed to read config file " ++ path
  | unparsable _ => "Failed to parse config file"

end BatchLaunch
