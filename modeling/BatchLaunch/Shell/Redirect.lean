import BatchLaunch.Shell.Search

/-!
Redirects: their words are expanded first, then each is done in turn, and what their descriptors
meant before is kept until it is wanted back.
-/
namespace BatchLaunch.Shell

open Host (Call Reply Descriptor Errno)

inductive Redirection where
  | path (descriptor : Descriptor) (kind : RedirectKind) (path : Chars)
  | copy (descriptor source : Descriptor)
  | close (descriptor : Descriptor)
  | text (descriptor : Descriptor) (word : Word)

structure Kept where
  descriptor : Descriptor
  copy : Option Descriptor

namespace Redirection

def descriptor : Redirection → Descriptor
  | path descriptor _ _ | copy descriptor _ | close descriptor | text descriptor _ => descriptor

def ofName (descriptor : Descriptor) (name : Chars) : Act Redirection :=
  match name with
  | ['-'] => pure (close descriptor)
  | [digit] => if digit.isDigit then pure (copy descriptor (Read.digitValue digit)) else refused
  | _ => refused
where
  refused : Act Redirection := do
    Act.modify fun state => { state with line := state.lineRead }
    Act.fault "Syntax error: Bad fd number".toList

def ofRedirects (outputOf : Command → Act Chars) : List Redirect → Act (List Redirection)
  | [] => pure []
  | .mk descriptor kind word :: rest => do
      let first ← match kind with
        | .hereText => pure (text descriptor word)
        | .duplicate => do ofName descriptor ((← Expand.fieldsOf outputOf word).headD [])
        | kind => do pure (path descriptor kind (← Expand.single outputOf false word))
      return first :: (← ofRedirects outputOf rest)

/-! Opening -/

def openMode : RedirectKind → Host.OpenMode
  | .input => .read
  | .append => .append
  | .readWrite => .readWrite
  | _ => .write

def openPath (kind : RedirectKind) (path : Chars) : Act Descriptor := do
  match ← Act.call (.open (Text.octetsOf path) (openMode kind)) with
  | .done opened => return opened
  | .refused errno =>
      let (attempt, missing) :=
        if kind = .input then ("cannot open ", "No such file")
        else ("cannot create ", "Directory nonexistent")
      Act.fault (attempt.toList ++ path ++ ": ".toList ++ reason errno missing)
  | _ => Act.stop .fault

def spare (path : Chars) : Act Unit := do
  match ← Act.call (.info (Text.octetsOf path) true) with
  | .info info =>
      if info.kind = .file then
        Act.fault ("cannot create ".toList ++ path ++ ": File exists".toList)
  | _ => pure ()

def pipeSize : Nat := 4096

def openText (outputOf : Command → Act Chars) (word : Word) : Act Descriptor := do
  let found ← Expand.single outputOf false word
  match ← Act.call .pipe with
  | .descriptors readEnd writeEnd =>
      if (Text.octetsOf found).length ≤ pipeSize then
        let _ ← Act.write writeEnd found
      else
        let _ ← Act.fork do
          let _ ← Act.call (.close readEnd)
          let _ ← Act.write writeEnd found
          return 0
      let _ ← Act.call (.close writeEnd)
      return readEnd
  | _ => Act.fault "Pipe call failed".toList

def opened (outputOf : Command → Act Chars) : Redirection → Act (Option Descriptor)
  | path _ kind name => do
      if kind = .output && (← Act.has .noClobbering) then spare name
      return some (← openPath kind name)
  | text _ word => do return some (← openText outputOf word)
  | copy _ _ | close _ => pure none

/-! Doing and undoing -/

def move (source target : Descriptor) : Act Unit := do
  if source ≠ target then
    let _ ← Act.call (.duplicate source target)
    let _ ← Act.call (.close source)

def keep (descriptor : Descriptor) : Act Kept := do
  match ← Act.call (.save descriptor Host.firstPrivate) with
  | .done number =>
      let _ ← Act.call (.close descriptor)
      return ⟨descriptor, some number⟩
  | _ => return ⟨descriptor, none⟩

def assign : Redirection → Option Descriptor → Act Unit
  | copy descriptor source, _ => do
      match ← Act.call (.duplicate source descriptor) with
      | .refused errno =>
          Act.fault (Expand.natText source ++ ": ".toList ++ errno.text.toList)
      | _ => pure ()
  | close descriptor, _ => do
      let _ ← Act.call (.close descriptor)
  | redirection, some source => move source redirection.descriptor
  | _, none => pure ()

def isIdle : Redirection → Bool
  | copy descriptor source => descriptor = source
  | _ => false

structure Outcome where
  kept : List Kept
  stop : Option Stop

def doAll (outputOf : Command → Act Chars) : List Redirection → List Kept → Act Outcome
  | [], kept => pure ⟨kept, none⟩
  | first :: rest, kept => do
      if first.isIdle then doAll outputOf rest kept
      else
        match ← Act.attempt (first.opened outputOf) with
        | .error stop => return ⟨kept, some stop⟩
        | .ok source =>
            let descriptor := first.descriptor
            let kept ← if kept.any (·.descriptor = descriptor) then pure kept
              else if source = some descriptor then pure (⟨descriptor, none⟩ :: kept)
              else do pure ((← keep descriptor) :: kept)
            match ← Act.attempt (first.assign source) with
            | .error stop => return ⟨kept, some stop⟩
            | .ok () => doAll outputOf rest kept

def restore : List Kept → Act Unit
  | [] => pure ()
  | ⟨descriptor, some number⟩ :: rest => do
      move number descriptor
      restore rest
  | ⟨descriptor, none⟩ :: rest => do
      let _ ← Act.call (.close descriptor)
      restore rest

def forget : List Kept → Act Unit
  | [] => pure ()
  | kept :: rest => do
      if let some number := kept.copy then
        let _ ← Act.call (.close number)
      forget rest

def settle (outputOf : Command → Act Chars) (redirections : List Redirection) : Act Unit := do
  let outcome ← doAll outputOf redirections []
  forget outcome.kept
  if let some stop := outcome.stop then
    Act.stop stop

end Redirection
end BatchLaunch.Shell
