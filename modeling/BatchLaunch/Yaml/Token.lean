import BatchLaunch.Text.Utf8
import BatchLaunch.Yaml.Cursor

/-!
The words of a YAML text. Indentation is already turned into starts and ends of blocks, and a key
without a question mark has its `key` put before it.
-/
namespace BatchLaunch.Yaml

inductive Style where
  | plain
  | quoted
  | literal
  | folded
  deriving DecidableEq, Repr

inductive Token where
  | streamStart
  | streamEnd
  | version (major minor : Nat)
  | tagHandle (handle : String) (meaning : Octets)
  | documentStart
  | documentEnd
  | blockSequenceStart
  | blockMappingStart
  | blockEnd
  | flowSequenceStart
  | flowSequenceEnd
  | flowMappingStart
  | flowMappingEnd
  | blockEntry
  | flowEntry
  | key
  | value
  | alias (name : String)
  | anchor (name : String)
  | tag (handle : String) (suffix : Octets)
  | scalar (text : String) (style : Style)
  deriving DecidableEq, Repr

end BatchLaunch.Yaml
