import BatchLaunch.CommandLine.Fault

/-!
Reading a command line. An option is looked at as soon as it is met; a setting whose value is to
follow stays open until the next option or the end, and its value is judged only then. Which options
exclude or need each other is judged last.
-/
namespace BatchLaunch.CommandLine

/-- Why no options come out of a command line. -/
inductive Stop where
  | help
  | version
  | refused (fault : Fault)
  deriving DecidableEq, Repr

/-- A setting that was named, with the argument after it once that is there. -/
structure Open where
  setting : Setting
  value : Option String
  deriving DecidableEq, Repr

structure Progress where
  options : Options
  /-- The mode flags met so far, in order. -/
  flags : List Flag
  pending : Option Open
  deriving DecidableEq, Repr

namespace Progress

def start : Progress := ⟨Options.default, [], none⟩

def single (setting : Setting) (present : Bool) (value : Except Fault Options) :
    Except Fault Options :=
  if present then .error (.settingRepeated setting) else value

def path (setting : Setting) (value : String) (put : String → Options) : Except Fault Options :=
  if value = "" then .error (.valueMissing setting) else .ok (put value)

def number {α : Type} (setting : Setting) (text : String)
    (result : Except Text.NumberFault α) : Except Fault α :=
  result.mapError fun fault => .badNumber setting text (.unreadable fault)

def dimension (text : String) : Except Fault UInt32 := do
  let value ← number .dimension text (Text.Number.signed (Nat.pow 2 63 - 1) text)
  if 0 ≤ value ∧ value < UInt32.size then .ok (UInt32.ofNat value.toNat)
  else .error (.badNumber .dimension text (.outOfRange value))

def timeout (text : String) : Except Fault UInt64 :=
  (number .timeout text (Text.Number.unsigned (UInt64.size - 1) text)).map UInt64.ofNat

def decomposition (text : String) : Except Fault Decomposition :=
  match Decomposition.ofTag? text with
  | some d => .ok d
  | none => .error (if text = "" then .valueMissing .decomposition else .badDecomposition text)

/-- Takes a value for a setting. What may stand once only is refused before its value is read. -/
def store (options : Options) (setting : Setting) (value : String) : Except Fault Options :=
  match setting with
  | .config => single .config options.config.isSome
      (path .config value fun text => { options with config := some text })
  | .logDir => single .logDir options.logDir.isSome
      (path .logDir value fun text => { options with logDir := some text })
  | .timeout => single .timeout options.timeout.isSome
      ((timeout value).map fun n => { options with timeout := some n })
  | .dimension =>
      (dimension value).map fun n => { options with dimensions := options.dimensions ++ [n] }
  | .decomposition =>
      (decomposition value).map fun d =>
        { options with decompositions := options.decompositions ++ [d] }

def settle (progress : Progress) : Except Fault Progress :=
  match progress.pending with
  | none => .ok progress
  | some ⟨setting, none⟩ => .error (.valueMissing setting)
  | some ⟨setting, some value⟩ =>
      (store progress.options setting value).map fun options =>
        { progress with options := options, pending := none }

def mark (options : Options) : Flag → Options
  | .dryRun => { options with dryRun := true }
  | .wait => { options with wait := true }
  | .check => { options with check := true }
  | .help | .version => options

def raise (progress : Progress) (flag : Flag) : Except Stop Progress := do
  let settled ← progress.settle.mapError .refused
  match flag with
  | .help => .error .help
  | .version => .error .version
  | _ =>
      if settled.flags.contains flag then .error (.refused (.flagRepeated flag))
      else .ok { settled with
        options := mark settled.options flag, flags := settled.flags ++ [flag] }

def long (progress : Progress) (name : String) (attached : Option String) :
    Except Stop Progress :=
  match Flag.ofName? name, Setting.ofName? name, attached with
  | some flag, _, some value => .error (.refused (.flagWithValue flag value))
  | some flag, _, none => progress.raise flag
  | none, some setting, some value => do
      let settled ← progress.settle.mapError .refused
      let options ← (store settled.options setting value).mapError .refused
      .ok { settled with options := options }
  | none, some setting, none => do
      let settled ← progress.settle.mapError .refused
      .ok { settled with pending := some ⟨setting, none⟩ }
  | none, none, _ => .error (.refused (.unexpected ("--" ++ name)))

def short (progress : Progress) (letter : Char) : Except Stop Progress :=
  match letter with
  | 'h' => progress.raise .help
  | 'V' => progress.raise .version
  | _ => .error (.refused (.unexpected (String.ofList ['-', letter])))

def word (progress : Progress) (argument : String) : Except Stop Progress :=
  match progress.pending with
  | some ⟨setting, none⟩ => .ok { progress with pending := some ⟨setting, some argument⟩ }
  | _ => .error (.refused (.unexpected argument))

/-- A name and, after the first `=`, a value. -/
def cutValue : List Char → List Char × Option (List Char)
  | [] => ([], none)
  | c :: rest =>
      if c = '=' then ([], some rest)
      else
        let (name, value) := cutValue rest
        (c :: name, value)

def argument (progress : Progress) (text : String) : Except Stop Progress :=
  match text.toList with
  | '-' :: '-' :: rest =>
      let (name, value) := cutValue rest
      progress.long (String.ofList name) (value.map String.ofList)
  | '-' :: letter :: letters => (letter :: letters).foldlM short progress
  | _ => progress.word text

/-- After `--` nothing is an option, and nothing else is expected. -/
def arguments (progress : Progress) : List String → Except Stop Progress
  | [] => progress.settle.mapError .refused
  | "--" :: rest =>
      match rest with
      | [] => progress.settle.mapError .refused
      | extra :: _ => .error (.refused (.unexpected extra))
  | text :: rest => do
      let next ← progress.argument text
      next.arguments rest

/-- At most one of the mode flags may stand, and a timeout needs waiting unless another mode is
there, which would exclude it. -/
def check (progress : Progress) : Except Fault Options :=
  match progress.flags with
  | flag :: other :: others => .error (.exclusive flag (other :: others))
  | [_] => .ok progress.options
  | [] => if progress.options.timeout.isSome then .error .waitMissing else .ok progress.options

end Progress

def parse (args : List String) : Except Stop Options := do
  let progress ← Progress.start.arguments args
  progress.check.mapError .refused

end BatchLaunch.CommandLine
