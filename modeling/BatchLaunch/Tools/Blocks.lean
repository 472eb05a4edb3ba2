import BatchLaunch.Tools.Numbers
import BatchLaunch.Tools.Options
import BatchLaunch.Tools.Quote

/-!
`dd`: what is read comes in blocks of one size and is written in blocks of another.
-/
namespace BatchLaunch.Tools

open Host (Action Call Reply Errno Descriptor)

namespace Blocks

structure Extent where
  number : Nat
  inOctets : Bool
  deriving DecidableEq, Repr

def Extent.octets (extent : Extent) (block : Nat) : Nat :=
  if extent.inOctets then extent.number else extent.number * block

inductive Account where
  | nothing
  | records
  | everything
  deriving DecidableEq, Repr

structure Plan where
  source : Option Chars
  target : Option Chars
  inputBlock : Nat
  outputBlock : Nat
  direct : Bool
  lineLength : Nat
  count : Option Extent
  skipped : Extent
  sought : Extent
  changes : List String
  inputFlags : List String
  outputFlags : List String
  account : Account

def Plan.plain : Plan :=
  ⟨none, none, 512, 512, false, 0, none, ⟨0, false⟩, ⟨0, false⟩, [], [], [], .everything⟩

def Plan.does (plan : Plan) (change : String) : Bool := plan.changes.contains change

/-! Operands -/

def knownChanges : List String :=
  ["ascii", "ebcdic", "ibm", "block", "unblock", "lcase", "ucase", "sparse", "swab", "sync",
    "noerror", "nocreat", "excl", "notrunc", "fdatasync", "fsync"]

def knownFlags : List String :=
  ["append", "binary", "cio", "direct", "directory", "dsync", "noatime", "nocache", "noctty",
    "nofollow", "nolinks", "nonblock", "sync", "text", "fullblock", "count_bytes", "skip_bytes",
    "seek_bytes"]

def exclusive : List (String × String) :=
  [("ascii", "ebcdic"), ("ascii", "ibm"), ("ebcdic", "ibm"), ("block", "unblock"),
    ("lcase", "ucase"), ("excl", "nocreat")]

def gathering : List String :=
  ["ascii", "ebcdic", "ibm", "block", "unblock", "lcase", "ucase", "swab"]

def factors (text : Chars) : Option Nat :=
  (Text.partsAt 'x' text).foldl (fun product part =>
    match product, amount? "bcwkKMGTPEZYRQ" part with
    | some n, .ok m => if part.head?.any Char.isDigit then some (n * m) else none
    | _, _ => none) (some 1)

def extent? (text : Chars) : Option Extent :=
  match factors text with
  | some n => some ⟨n, false⟩
  | none =>
      if text.getLast? = some 'B' then (factors text.dropLast).map (⟨·, true⟩) else none

def invalidNumber {α : Type} (name value : Chars) : Action α :=
  giveUp name ("invalid number: ".toList ++ shellQuoted value) 1

def wordsOf (name : Chars) (known : List String) (what : String) (value : Chars) :
    Action (List String) :=
  (Text.partsAt ',' value).mapM fun word =>
    if known.contains (String.ofList word) then pure (String.ofList word)
    else giveUpUse name (what.toList ++ ": ".toList ++ quoted word) 1

def Plan.take (plan : Plan) (name word : Chars) : Action Plan := do
  let key := word.takeWhile (· ≠ '=')
  let value := word.drop (key.length + 1)
  let unknown : Action Plan :=
    giveUpUse name ("unrecognized operand ".toList ++ shellQuoted word) 1
  let size : Action Nat :=
    match factors value with
    | some n => if n = 0 then invalidNumber name value else pure n
    | none => invalidNumber name value
  let extent : Action Extent :=
    match extent? value with
    | some extent => pure extent
    | none => invalidNumber name value
  if key.length = word.length then unknown
  else
    match String.ofList key with
    | "if" => pure { plan with source := some value }
    | "of" => pure { plan with target := some value }
    | "bs" => do
        let n ← size
        pure { plan with inputBlock := n, outputBlock := n, direct := true }
    | "ibs" => do
        let n ← size
        pure (if plan.direct then plan else { plan with inputBlock := n })
    | "obs" => do
        let n ← size
        pure (if plan.direct then plan else { plan with outputBlock := n })
    | "cbs" => do pure { plan with lineLength := ← size }
    | "count" => do pure { plan with count := some (← extent) }
    | "skip" | "iseek" => do pure { plan with skipped := ← extent }
    | "seek" | "oseek" => do pure { plan with sought := ← extent }
    | "conv" => do
        let words ← wordsOf name knownChanges "invalid conversion" value
        pure { plan with changes := plan.changes ++ words }
    | "iflag" => do
        let words ← wordsOf name knownFlags "invalid input flag" value
        pure { plan with inputFlags := plan.inputFlags ++ words }
    | "oflag" => do
        let words ← wordsOf name knownFlags "invalid output flag" value
        pure { plan with outputFlags := plan.outputFlags ++ words }
    | "status" =>
        match String.ofList value with
        | "none" => pure { plan with account := .nothing }
        | "noxfer" => pure { plan with account := .records }
        | "progress" => pure { plan with account := .everything }
        | _ => giveUpUse name ("invalid status level: ".toList ++ quoted value) 1
    | _ => unknown

/-! What is copied -/

def swapped : Octets → Octets
  | a :: b :: rest => b :: a :: swapped rest
  | rest => rest

def blank : UInt8 := 32

def newline : UInt8 := 10

def linesAsParts (length : Nat) (octets : Octets) : Octets × Nat :=
  let lines := octets.splitOn newline
  let lines := if lines.getLast? = some [] then lines.dropLast else lines
  (lines.flatMap fun line => line.take length ++ List.replicate (length - line.length) blank,
    lines.countP fun line => length < line.length)

def parts (length : Nat) : Nat → Octets → List Octets
  | 0, _ => []
  | _, [] => []
  | fuel + 1, octets => octets.take length :: parts length fuel (octets.drop length)

def partsAsLines (length : Nat) (octets : Octets) : Octets :=
  (parts length (octets.length + 1) octets).flatMap fun part =>
    (part.reverse.dropWhile (· = blank)).reverse ++ [newline]

def inCase (change : Char → Char) (octets : Octets) : Octets :=
  octets.map fun b => (change (Char.ofNat b.toNat)).toNat.toUInt8

def Plan.changed (plan : Plan) (octets : Octets) : Octets × Nat :=
  let octets := if plan.does "swab" then swapped octets else octets
  let octets := if plan.does "ucase" then inCase Char.toUpper octets
    else if plan.does "lcase" then inCase Char.toLower octets else octets
  if plan.lineLength = 0 then (octets, 0)
  else if plan.does "block" then linesAsParts plan.lineLength octets
  else if plan.does "unblock" then (partsAsLines plan.lineLength octets, 0)
  else (octets, 0)

def Plan.filler (plan : Plan) : UInt8 :=
  if plan.does "block" || plan.does "unblock" then blank else 0

structure Tally where
  full : Nat
  partly : Nat
  deriving DecidableEq, Repr

def Tally.add (tally : Tally) (isFull : Bool) : Tally :=
  if isFull then { tally with full := tally.full + 1 } else { tally with partly := tally.partly + 1 }

def readBlock (source : Descriptor) (full : Bool) : Nat → Nat → Action (Except Errno Octets)
  | 0, _ => pure (.ok [])
  | fuel + 1, size => do
      match ← Action.call (.read source size) with
      | .octets found =>
          if !full || found.isEmpty || size ≤ found.length then pure (.ok found)
          else
            match ← readBlock source full fuel (size - found.length) with
            | .ok more => pure (.ok (found ++ more))
            | .error errno => pure (.error errno)
      | .refused errno => pure (.error errno)
      | _ => pure (.ok [])

/-- What was handed on: how many blocks of each kind, how many octets they are together, and
whether that was all. -/
structure Handed where
  tally : Tally
  total : Nat
  fine : Bool

structure Intake where
  blocks : List Octets
  begun : Octets
  tally : Tally
  total : Nat
  handed : Handed
  refused : Bool
  fault : Option Errno

def Intake.none : Intake := ⟨[], [], ⟨0, 0⟩, 0, ⟨⟨0, 0⟩, 0, true⟩, false, .none⟩

/-- The block before was short, which is pointed out once if blocks are counted. -/
def warnOf (name : Chars) (before : Nat) : Action Unit :=
  complain name ("warning: partial read (".toList ++ natChars before ++
    (if before = 1 then " byte" else " bytes").toList ++ "); suggest iflag=fullblock".toList)

def Plan.wanted (plan : Plan) (intake : Intake) : Nat :=
  match plan.count with
  | none => plan.inputBlock
  | some count =>
      if count.inOctets then min plan.inputBlock (count.number - intake.total)
      else if intake.tally.full + intake.tally.partly < count.number then plan.inputBlock else 0

def Plan.filled (plan : Plan) (block : Octets) : Octets :=
  if plan.does "sync" then block ++ List.replicate (plan.inputBlock - block.length) plan.filler
  else block

/-- Reads blocks up to the end, or up to as many octets or blocks as are asked for. Each is handed
on at once; reading ends where one cannot be handed on. -/
def Plan.intake (plan : Plan) (name : Chars) (source : Descriptor)
    (hand : Octets → Intake → Action Intake) :
    Nat → Bool → Nat → Intake → Action Intake
  | 0, _, _, intake => pure intake
  | fuel + 1, warns, before, intake => do
      let size := plan.wanted intake
      if size = 0 then pure intake
      else
        match ← readBlock source (plan.inputFlags.contains "fullblock") (size + 1) size with
        | .error errno => pure { intake with fault := some errno }
        | .ok [] => pure intake
        | .ok block =>
            let short := 0 < before && before < plan.inputBlock
            if warns && short && plan.account ≠ .nothing then warnOf name before
            let intake ← hand (plan.filled block) { intake with
              tally := intake.tally.add (block.length = plan.inputBlock)
              total := intake.total + block.length }
            if intake.refused then pure intake
            else plan.intake name source hand fuel (warns && !short) block.length intake

def Plan.handed (plan : Plan) (intake : Intake) : Handed :=
  let all : Handed :=
    if plan.does "sync" then
      let count := intake.tally.full + intake.tally.partly
      ⟨⟨count, 0⟩, count * plan.outputBlock, true⟩
    else ⟨intake.tally, intake.total, true⟩
  if !intake.refused then all
  else if 0 < all.tally.partly then
    ⟨⟨all.tally.full, all.tally.partly - 1⟩, all.tally.full * plan.outputBlock, false⟩
  else ⟨⟨all.tally.full - 1, 0⟩, (all.tally.full - 1) * plan.outputBlock, false⟩

def Plan.handOver (plan : Plan) (write : Octets → Action Bool) :
    List Octets → Handed → Action Handed
  | [], handed => pure handed
  | block :: rest, handed => do
      if ← write block then
        plan.handOver write rest { handed with
          tally := handed.tally.add (block.length = plan.outputBlock)
          total := handed.total + block.length }
      else pure { handed with fine := false }

/-- Reads on without keeping what is read: how much of it was not there. -/
def passOver (source : Descriptor) : Nat → Nat → Action Nat
  | 0, count => pure count
  | _, 0 => pure 0
  | fuel + 1, count + 1 => do
      match ← Action.call (.read source (min (count + 1) 65536)) with
      | .octets found =>
          if found.isEmpty then pure (count + 1)
          else passOver source fuel (count + 1 - found.length)
      | _ => pure (count + 1)

/-! The account -/

def rounded (n unit : Nat) : Chars :=
  let tenths := (n * 10 + unit / 2) / unit
  if tenths < 100 then natChars (tenths / 10) ++ '.' :: natChars (tenths % 10)
  else natChars ((n + unit / 2) / unit)

def inUnits (base : Nat) (letters : List String) (n : Nat) : Option Chars :=
  let power := ((List.range (letters.length + 1)).filter fun power =>
    Nat.pow base power ≤ n).foldl max 0
  if power = 0 then none
  else (letters[power - 1]?).map fun letter =>
    rounded n (Nat.pow base power) ++ ' ' :: letter.toList

def copiedText (n : Nat) : Chars :=
  let forms := (inUnits 1000 ["kB", "MB", "GB", "TB"] n).toList ++
    (inUnits 1024 ["KiB", "MiB", "GiB", "TiB"] n).toList
  natChars n ++ (if n = 1 then " byte" else " bytes").toList ++
    (if forms.isEmpty then [] else " (".toList ++ join ", ".toList forms ++ [')']) ++
    " copied".toList

def Plan.tell (plan : Plan) (read written : Tally) (cut total : Nat) : Action Unit := do
  let line (tally : Tally) (what : String) : Chars :=
    natChars tally.full ++ '+' :: natChars tally.partly ++ " records ".toList ++ what.toList ++ ['\n']
  let cutText := if cut = 0 then []
    else natChars cut ++ (if cut = 1 then " truncated record\n" else " truncated records\n").toList
  let last := if plan.account = .records then []
    else copiedText total ++ ", 0.0001 s, ".toList ++
      ((inUnits 1000 ["kB", "MB", "GB", "TB"] (total * 10000)).getD "0 B".toList) ++ "/s\n".toList
  if plan.account ≠ .nothing then
    let told := line read "in" ++ line written "out" ++ cutText ++ last
    let _ ← Action.write errors (Text.octetsOf told)
  else pure ()

def Plan.hand (plan : Plan) (gathers : Bool) (write : Octets → Action Bool) (block : Octets)
    (intake : Intake) : Action Intake := do
  if !gathers then pure { intake with refused := !(← write block) }
  else if 0 < plan.lineLength || plan.does "swab" then
    pure { intake with blocks := block :: intake.blocks }
  else
    let octets := intake.begun ++ (plan.changed block).1
    let count := octets.length - octets.length % plan.outputBlock
    let handed ← plan.handOver write
      (parts plan.outputBlock (octets.length + 1) (octets.take count)) intake.handed
    pure { intake with begun := octets.drop count, handed := handed, refused := !handed.fine }

/-! The files -/

def refuseToOpen {α : Type} (name file : Chars) (errno : Errno) : Action α :=
  giveUp name ("failed to open ".toList ++ shellQuoted file ++ ": ".toList ++ errno.text.toList) 1

def Plan.openTarget (plan : Plan) (name file : Chars) : Action Descriptor := do
  let seek := { plan.sought with
    inOctets := plan.sought.inOctets || plan.outputFlags.contains "seek_bytes" }.octets
      plan.outputBlock
  let keeps := plan.does "notrunc"
  let there ← match ← Action.call (.info (path file) true) with
    | .info _ => pure true
    | _ => pure false
  if plan.does "nocreat" && !there then refuseToOpen name file .noEntry
  if plan.does "excl" && there then refuseToOpen name file .present
  let mode : Host.OpenMode := if plan.outputFlags.contains "append" then .append
    else if 0 < seek then .readWrite else if keeps then .keep else .write
  match ← Action.call (.open (path file) mode) with
  | .refused errno => refuseToOpen name file errno
  | .done target => do
      if 0 < seek then
        if !keeps then
          let _ ← Action.call (.setLength target seek)
        let missing ← passOver target (seek + 1) seek
        if 0 < missing then
          let _ ← Action.call (.setLength target seek)
          let _ ← passOver target (missing + 1) missing
      pure target
  | _ => pure output

def Plan.run (plan : Plan) (name : Chars) : Action Nat := do
  let source ← match plan.source with
    | none => pure (0 : Descriptor)
    | some file =>
        match ← Action.call (.open (path file) .read) with
        | .done descriptor =>
            if descriptor ≠ 0 then
              let _ ← Action.call (.duplicate descriptor 0)
              let _ ← Action.call (.close descriptor)
            pure 0
        | .refused errno => refuseToOpen name file errno
        | _ => pure 0
  let target ← match plan.target with
    | none => pure output
    | some file => plan.openTarget name file
  let shownSource := plan.source.getD "standard input".toList
  let shownTarget := plan.target.getD "standard output".toList
  let flagged (extent : Extent) (flag : String) : Extent :=
    { extent with inOctets := extent.inOctets || plan.inputFlags.contains flag }
  let skip := (flagged plan.skipped "skip_bytes").octets plan.inputBlock
  let missing ← passOver source (skip + 1) skip
  if 0 < missing && plan.account ≠ .nothing then
    let shown := if plan.source.isSome then nameSafe shownSource
      else "'standard input'".toList
    complain name (shown ++ ": cannot skip to specified offset".toList)
  let plan := { plan with count := plan.count.map (flagged · "count_bytes") }
  let gathers := !plan.direct || gathering.any plan.does
  let warns := !gathers && !plan.inputFlags.contains "fullblock" &&
    (0 < skip || plan.count.any fun count => 0 < count.number)
  let write (block : Octets) : Action Bool := do
    if ← Action.write target block then pure true
    else
      complain name ((if gathers && block.length = plan.outputBlock then "writing to "
        else "error writing ").toList ++ shellQuoted shownTarget ++ ": ".toList ++
        Errno.badFile.text.toList)
      pure false
  let intake ← plan.intake name source (plan.hand gathers write) blockLimit warns 0 .none
  match intake.fault with
  | some errno => complain name ("error reading ".toList ++ shellQuoted shownSource ++ ": ".toList ++
      errno.text.toList)
  | none => pure ()
  let (changed, cut) := plan.changed intake.blocks.reverse.flatten
  let octets := changed ++ intake.begun
  let handed ← if !gathers then pure (plan.handed intake)
    else if intake.refused then pure intake.handed
    else plan.handOver write (parts plan.outputBlock (octets.length + 1) octets) intake.handed
  let closed ← if handed.fine then pure false
    else pure ((← Action.call (.rewind target 0)) = .refused .badFile)
  if closed then
    complain name "closing output file 'standard output': Bad file descriptor".toList
  else plan.tell intake.tally handed.tally cut handed.total
  pure (if handed.fine && intake.fault.isNone then 0 else 1)

end Blocks

def dd : Tool := fun name words => do
  let operands ← match words.find? fun word => word.head? = some '-' && word ≠ "--".toList with
    | some word =>
        match (⟨"", [], true⟩ : OptionTable).read 2 [word] with
        | .error fault => giveUpUse name fault 1
        | .ok _ => pure words
    | none => pure (if words.head? = some "--".toList then words.drop 1 else words)
  let rec take (plan : Blocks.Plan) : List Chars → Action Blocks.Plan
    | [] => pure plan
    | word :: rest => do take (← plan.take name word) rest
  let plan ← take Blocks.Plan.plain operands
  match Blocks.exclusive.find? fun (one, other) => plan.does one && plan.does other with
  | some (one, other) =>
      giveUp name ("cannot combine ".toList ++ one.toList ++ " and ".toList ++ other.toList) 1
  | none => pure ()
  plan.run name

end BatchLaunch.Tools
