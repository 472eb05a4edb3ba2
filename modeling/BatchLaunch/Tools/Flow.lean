import BatchLaunch.Tools.Inputs

/-!
Inputs that are gone through piece by piece, so that something comes out of them before they end.
-/
namespace BatchLaunch.Tools

open Host (Action Call Reply Errno Descriptor)

def atLastEnd (ending : Char) (text : Chars) : Chars × Chars :=
  let begun := text.reverse.takeWhile (· ≠ ending)
  (text.take (text.length - begun.length), begun.reverse)

structure Flow (α : Type) where
  state : α
  held : Chars
  refused : Bool

namespace Flow

variable {α : Type}

def start (state : α) : Flow α := ⟨state, [], false⟩

/-- Writes what fills whole blocks; the rest is still kept. -/
def release (flow : Flow α) : Action (Flow α) := do
  let kept := flow.held.length % 4096
  if kept = flow.held.length then pure flow
  else
    let count := flow.held.length - kept
    let fine ← put (flow.held.take count)
    pure { flow with held := flow.held.drop count, refused := flow.refused || !fine }

def flush (flow : Flow α) : Action (Flow α) := do
  if flow.held.isEmpty then pure flow
  else
    let fine ← put flow.held
    pure { flow with held := [], refused := flow.refused || !fine }

def take (step : α → Chars → α × Chars) (flow : Flow α) (piece : Chars) : Flow α :=
  if piece.isEmpty then flow
  else
    let (state, shown) := step flow.state piece
    { flow with state := state, held := flow.held ++ shown }

/-- Goes through what can be read, in pieces that consist of whole records if these have an end;
only the last piece may lack it. `begun` is the start of a record that was read before. -/
def through (source : Descriptor) (ending : Option Char) (step : α → Chars → α × Chars) :
    Nat → Chars → Flow α → Action (Option Errno × Flow α)
  | 0, begun, flow => pure (none, flow.take step begun)
  | fuel + 1, begun, flow => do
      match ← Action.call (.read source 65536) with
      | .octets [] => pure (none, flow.take step begun)
      | .octets octets =>
          let text := begun ++ Text.charsOf octets
          let (piece, begun) := ending.elim (text, []) fun ending => atLastEnd ending text
          let flow ← (flow.take step piece).release
          if flow.refused then pure (none, flow)
          else through source ending step fuel begun flow
      | .refused errno => pure (some errno, flow.take step begun)
      | _ => pure (none, flow)

end Flow

def throughTexts {α : Type} (name : Chars) (ending : Option Char) (step : α → Chars → α × Chars)
    (files : List Chars) (state : α) : Action Nat :=
  go 0 files (.start state)
where
  fail (file : Chars) (errno : Errno) (flow : Flow α) : Action (Flow α) := do
    let flow ← flow.flush
    complainOfFile name file errno
    pure flow
  go (status : Nat) : List Chars → Flow α → Action Nat
    | [], flow => do
        let _ ← flow.flush
        pure status
    | file :: rest, flow => do
        match ← openInput file with
        | .error errno => do
            let flow ← fail file errno flow
            go 1 rest flow
        | .ok source =>
            let (fault, flow) ← flow.through source ending step blockLimit []
            if source ≠ 0 then
              let _ ← Action.call (.close source)
            match fault with
            | none => go status rest flow
            | some errno => do
                let flow ← fail file errno flow
                go 1 rest flow

def eachPiece (name : Chars) (ending : Char) (step : Chars → Chars) (files : List Chars) :
    Action Nat :=
  throughTexts name (some ending) (fun (_ : Unit) piece => ((), step piece)) files ()

structure RecordSource where
  source : Descriptor
  buffer : Chars
  atEnd : Bool

def RecordSource.next (ending : Char) :
    Nat → RecordSource → Action (Except Errno (Option Chars × RecordSource))
  | 0, records => pure (.ok (none, records))
  | fuel + 1, records => do
      let record := records.buffer.takeWhile (· ≠ ending)
      let behind := records.buffer.drop record.length
      if !behind.isEmpty then pure (.ok (some record, { records with buffer := behind.drop 1 }))
      else if records.atEnd then
        pure (.ok (if record.isEmpty then none else some record, { records with buffer := [] }))
      else
        match ← Action.call (.read records.source 4096) with
        | .octets [] => next ending fuel { records with atEnd := true }
        | .octets octets =>
            next ending fuel { records with buffer := records.buffer ++ Text.charsOf octets }
        | .refused errno => pure (.error errno)
        | _ => next ending fuel { records with atEnd := true }

end BatchLaunch.Tools
