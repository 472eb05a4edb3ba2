import BatchLaunch.Tools.Basic

/-!
The stretches in which the lines of two texts differ, along a longest common part of them.
-/
namespace BatchLaunch.Tools

/-- A stretch of lines of one text in place of one of the other. Places count from zero. -/
structure Hunk where
  oldStart : Nat
  oldLines : List Chars
  newStart : Nat
  newLines : List Chars

inductive Fate where
  | kept
  | gone
  | came
  deriving DecidableEq, Repr

/-- For each rest of the new lines, how many lines a longest common part with some old lines has,
given the same for one old line less. -/
def commonRow (same : Chars → Chars → Bool) (old : Chars) (new : List Chars) (below : List Nat) :
    List Nat :=
  match new, below with
  | line :: rest, here :: after =>
      let row := commonRow same old rest after
      let next := if same old line then after.headD 0 + 1 else max here (row.headD 0)
      next :: row
  | _, _ => [0]

def commonRows (same : Chars → Chars → Bool) (old new : List Chars) : List (List Nat) :=
  match old with
  | [] => [List.replicate (new.length + 1) 0]
  | line :: rest =>
      let rows := commonRows same rest new
      commonRow same line new (rows.headD []) :: rows

def fates (same : Chars → Chars → Bool) : Nat → List Chars → List Chars → List (List Nat) →
    List Fate
  | 0, _, _, _ => []
  | _, [], new, _ => new.map fun _ => .came
  | _, old, [], _ => old.map fun _ => .gone
  | fuel + 1, a :: as, b :: bs, rows =>
      let tails := rows.map (List.drop 1)
      if same a b then .kept :: fates same fuel as bs (tails.drop 1)
      else
        let down := ((rows[1]?).getD []).headD 0
        let along := (tails.headD []).headD 0
        if along ≤ down then .gone :: fates same fuel as (b :: bs) (rows.drop 1)
        else .came :: fates same fuel (a :: as) bs tails

def commonStart (same : Chars → Chars → Bool) : List Chars → List Chars → Nat
  | a :: as, b :: bs => if same a b then commonStart same as bs + 1 else 0
  | _, _ => 0

def stretches (old new : List Chars) : List Fate → Nat → Nat → Option Hunk → List Hunk
  | [], _, _, open? => open?.toList
  | fate :: rest, i, j, open? =>
      let hunk := open?.getD ⟨i, [], j, []⟩
      match fate with
      | .kept => open?.toList ++ stretches old new rest (i + 1) (j + 1) none
      | .gone => stretches old new rest (i + 1) j
          (some { hunk with oldLines := hunk.oldLines ++ [(old[i]?).getD []] })
      | .came => stretches old new rest i (j + 1)
          (some { hunk with newLines := hunk.newLines ++ [(new[j]?).getD []] })

/-- Moves a stretch that only one text has as far down as the same lines follow it. -/
def slide (same : Chars → Chars → Bool) (old new : List Chars) (limit : Nat) :
    Nat → Hunk → Hunk
  | 0, hunk => hunk
  | fuel + 1, hunk =>
      let lines := if hunk.oldLines.isEmpty then hunk.newLines else hunk.oldLines
      if !hunk.oldLines.isEmpty && !hunk.newLines.isEmpty then hunk
      else
        let next := if hunk.oldLines.isEmpty then new[hunk.newStart + lines.length]?
          else old[hunk.oldStart + lines.length]?
        match lines, next with
        | first :: rest, some next =>
            if same first next && hunk.oldStart + hunk.oldLines.length < limit then
              let moved := rest ++ [next]
              slide same old new limit fuel ⟨hunk.oldStart + 1,
                if hunk.oldLines.isEmpty then [] else moved, hunk.newStart + 1,
                if hunk.oldLines.isEmpty then moved else []⟩
            else hunk
        | _, _ => hunk

def slideAll (same : Chars → Chars → Bool) (old new : List Chars) : List Hunk → List Hunk
  | [] => []
  | hunk :: rest =>
      let limit := rest.head?.elim old.length fun next => next.oldStart - 1
      slide same old new limit (old.length + new.length) hunk :: slideAll same old new rest

def hunksBetween (same : Chars → Chars → Bool) (old new : List Chars) : List Hunk :=
  let start := commonStart same old new
  let oldRest := old.drop start
  let newRest := new.drop start
  let stop := commonStart same oldRest.reverse newRest.reverse
  let a := oldRest.take (oldRest.length - stop)
  let b := newRest.take (newRest.length - stop)
  let found := fates same (a.length + b.length + 1) a b (commonRows same a b)
  slideAll same old new (stretches old new found start start none)

end BatchLaunch.Tools
