import BatchLaunch.CommandLine.Options
import BatchLaunch.Text.Number

/-!
Why a command line is not accepted, and in which words that is said.
-/
namespace BatchLaunch.CommandLine

inductive NumberReason where
  | unreadable (fault : Text.NumberFault)
  | outOfRange (value : Int)
  deriving DecidableEq, Repr

def NumberReason.message : NumberReason → String
  | unreadable fault => fault.message
  | outOfRange value => toString value ++ " is not in 0..=4294967295"

inductive Fault where
  /-- An argument that is neither an option nor a value of one. -/
  | unexpected (argument : String)
  | flagWithValue (flag : Flag) (value : String)
  | valueMissing (setting : Setting)
  | badNumber (setting : Setting) (text : String) (reason : NumberReason)
  | badDecomposition (text : String)
  | flagRepeated (flag : Flag)
  | settingRepeated (setting : Setting)
  | exclusive (flag : Flag) (others : List Flag)
  /-- A timeout without waiting. -/
  | waitMissing
  deriving DecidableEq, Repr

namespace Fault

def tagList : String :=
  "\n  [possible values: " ++ ", ".intercalate (Decomposition.all.map Decomposition.tag) ++ "]"

def choices : Setting → String
  | .decomposition => tagList
  | _ => ""

def message : Fault → String
  | unexpected argument => "error: unexpected argument '" ++ argument ++ "' found"
  | flagWithValue flag value =>
      "error: unexpected value '" ++ value ++ "' for '" ++ flag.spelling ++
        "' found; no more were expected"
  | valueMissing setting =>
      "error: a value is required for '" ++ setting.spelling ++ "' but none was supplied" ++
        choices setting
  | badNumber setting text reason =>
      "error: invalid value '" ++ text ++ "' for '" ++ setting.spelling ++ "': " ++ reason.message
  | badDecomposition text =>
      "error: invalid value '" ++ text ++ "' for '" ++ Setting.decomposition.spelling ++ "'" ++
        tagList
  | flagRepeated flag =>
      "error: the argument '" ++ flag.spelling ++ "' cannot be used multiple times"
  | settingRepeated setting =>
      "error: the argument '" ++ setting.spelling ++ "' cannot be used multiple times"
  | exclusive flag [other] =>
      "error: the argument '" ++ flag.spelling ++ "' cannot be used with '" ++ other.spelling ++ "'"
  | exclusive flag others =>
      "error: the argument '" ++ flag.spelling ++ "' cannot be used with:" ++
        String.join (others.map fun other => "\n  " ++ other.spelling)
  | waitMissing =>
      "error: the following required arguments were not provided:\n  " ++ Flag.wait.spelling

end Fault
end BatchLaunch.CommandLine
