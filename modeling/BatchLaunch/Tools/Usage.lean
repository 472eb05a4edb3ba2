import BatchLaunch.Tools.Listing

/-!
`du`: how much room things take up.
-/
namespace BatchLaunch.Tools

open Host (Action Errno Info)

namespace Usage

structure Plan where
  name : Chars
  all : Bool
  again : Bool
  remembers : Bool
  separate : Bool
  apparent : Bool
  counts : Bool
  depth : Option Nat
  unit : Nat
  human : Bool
  ending : Char
  follow : Bool
  followOperands : Bool
  excluded : List Chars
  least : Nat

def Plan.sizeOf (plan : Plan) (info : Info) : Nat :=
  if plan.counts then 1 else if plan.apparent then info.size else blocksOf info * 1024

def Plan.shown (plan : Plan) (size : Nat) : Chars :=
  if plan.counts then natChars size
  else if plan.human then humanSize size
  else natChars ((size + plan.unit - 1) / plan.unit)

def Plan.show1 (plan : Plan) (size : Nat) (file : Chars) : Action Unit := do
  if plan.least ≤ size then
    let _ ← put (plan.shown size ++ '\t' :: file ++ [plan.ending])
  else pure ()

/-- Goes through something and all in it. The answer is what it takes up itself, what that comes to
with what is below, and whether all could be looked at. -/
def Plan.measure (plan : Plan) : Nat → Nat → Chars → List Host.NodeId →
    Action ((Nat × Nat) × Bool × List Host.NodeId)
  | 0, _, _, seen => pure ((0, 0), false, seen)
  | fuel + 1, level, file, seen => do
      if 0 < level && plan.excluded.any fun pattern =>
          fitsPattern pattern (baseOf file) || fitsPattern pattern file then
        pure ((0, 0), true, seen)
      else
        match ← infoAt file (plan.follow || (plan.followOperands && level = 0)) with
        | .error errno =>
            complain plan.name ("cannot access ".toList ++ shellQuoted file ++ ": ".toList ++
              errno.text.toList)
            pure ((0, 0), false, seen)
        | .ok info =>
            let isDir := info.kind = .directory
            let remembered := !plan.again && (plan.remembers || (!isDir && 1 < info.links))
            if remembered && seen.contains info.node then pure ((0, 0), true, seen)
            else
              let seen := if remembered then info.node :: seen else seen
              let own := plan.sizeOf info
              if isDir then
                let names ← namesIn file
                match names with
                | .error errno => complain plan.name ("cannot read directory ".toList ++
                    shellQuoted file ++ ": ".toList ++ errno.text.toList)
                | .ok _ => pure ()
                let ((files, below), fine, seen) ← (names.toOption.getD []).foldlM
                  (fun ((files, below), fine, seen) entry => do
                    let ((inner, all), well, seen) ←
                      plan.measure fuel (level + 1) (inside file entry) seen
                    pure ((files + inner, below + all), fine && well, seen))
                  (((0, 0), names.isOk, seen) : (Nat × Nat) × Bool × List Host.NodeId)
                let sum := own + files
                let size := if plan.separate then sum else sum + below
                if plan.depth.all (level ≤ ·) then plan.show1 size file
                pure ((0, sum + below), fine, seen)
              else
                if level = 0 || (plan.all && plan.depth.all (level ≤ ·)) then plan.show1 own file
                pure ((own, 0), true, seen)

end Usage

def duOptions : OptionTable :=
  ⟨"0abcd:hHklmst:xB:DLPSX:", [("all", "a"), ("apparent-size", "apparent"), ("block-size:", "B"),
    ("bytes", "b"), ("count-links", "l"), ("dereference", "L"), ("dereference-args", "D"),
    ("exclude:", "exclude"), ("human-readable", "h"), ("inodes", "inodes"), ("max-depth:", "d"),
    ("null", "0"), ("no-dereference", "P"), ("one-file-system", "x"), ("separate-dirs", "S"),
    ("summarize", "s"), ("threshold:", "t"), ("total", "c")], true⟩

def usageUnit (name : Chars) (asked : Asked) : Action Nat := do
  match asked.last? ["b", "k", "m", "B"] with
  | some ("b", _) => pure 1
  | some ("m", _) => pure 1048576
  | some ("B", text) =>
      match ← argumentOf name "-B" "bkKmMGTPEZY" 1 text with
      | n + 1 => pure (n + 1)
      | 0 => giveUp name ("invalid -B argument '".toList ++ text ++ ['\x27']) 1
  | _ => pure 1024

def du : Tool := withOptions duOptions 1 fun name asked => do
  let depth ← match asked.value? "d" with
    | none => pure none
    | some text =>
        match natural? text with
        | some n => pure (some n)
        | none =>
            complain name ("invalid maximum depth ".toList ++ quoted text)
            complainOfHelp name
            Action.exit 1
  if asked.has "a" && asked.has "s" then
    giveUpUse name "cannot both summarize and show all entries".toList 1
  match depth with
  | some depth =>
      if asked.has "s" && depth = 0 then
        complain name "warning: summarizing is the same as using --max-depth=0".toList
      else if asked.has "s" then
        giveUpUse name ("warning: summarizing conflicts with --max-depth=".toList ++
          natChars depth) 1
  | none => pure ()
  let unit ← usageUnit name asked
  let least ← match asked.value? "t" with
    | none => pure 0
    | some text => argumentOf name "--threshold" "bkKmMGTPEZY" 1 text
  let words := if asked.operands.isEmpty then [['.']] else asked.operands
  let plan : Usage.Plan := {
    name := name
    all := asked.has "a"
    again := asked.has "l"
    remembers := 1 < words.length || asked.has "L"
    separate := asked.has "S"
    apparent := asked.has "b" || asked.has "apparent"
    counts := asked.has "inodes"
    depth := if asked.has "s" then some 0 else depth
    unit := unit
    human := asked.has "h"
    ending := if asked.has "0" then '\x00' else '\n'
    follow := asked.has "L"
    followOperands := asked.has "D" || asked.has "H"
    excluded := asked.values "exclude"
    least := least }
  let (total, fine, _) ← words.foldlM (fun (total, fine, seen) word => do
    let ((own, below), well, seen) ← plan.measure deepest 0 word seen
    pure (total + own + below, fine && well, seen)) ((0, true, []) : Nat × Bool × List Host.NodeId)
  if asked.has "c" then plan.show1 total "total".toList
  pure (if fine then 0 else 1)

end BatchLaunch.Tools
