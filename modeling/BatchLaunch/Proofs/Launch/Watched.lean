import BatchLaunch.Proofs.Launch.Outcomes

/-!
A launch that is not alone on its machine. Before each of its requests others may do anything, and
each is kept with the machine as it was before and after it, so that what the launch does itself is
told apart from what the others do.
-/
namespace BatchLaunch.Launch

variable {World Log Child : Type}

structure Action (World Child : Type) where
  request : Request Child
  before : World
  after : World

/-- The same machine among others, who may act before each request, with the actions of the launch
beside it. -/
def watched (others : Nat → World → World) (machine : Machine World Log Child) :
    Machine (World × List (Action World Child)) Log Child where
  read state path := machine.read state.1 path
  executable? state path := machine.executable? state.1 path
  searchPath state := machine.searchPath state.1
  openLog state path :=
    let before := others state.2.length state.1
    let answer := machine.openLog before path
    (answer.1, answer.2, state.2 ++ [⟨.openLog path, before, answer.2⟩])
  copyLog state log :=
    let before := others state.2.length state.1
    let answer := machine.copyLog before log
    (answer.1, answer.2, state.2 ++ [⟨.copyLog, before, answer.2⟩])
  start state program args output errors :=
    let before := others state.2.length state.1
    let answer := machine.start before program args output errors
    (answer.1, answer.2, state.2 ++ [⟨.start program args, before, answer.2⟩])
  buildPool state threads :=
    let before := others state.2.length state.1
    let answer := machine.buildPool before threads
    (answer.1, answer.2, state.2 ++ [⟨.buildPool threads, before, answer.2⟩])
  await state threads calls :=
    let before := others state.2.length state.1
    let answer := machine.await before threads calls
    (answer.1, answer.2, state.2 ++ [⟨.await threads calls, before, answer.2⟩])

/-- What others and some actions make of a machine in turns. -/
inductive Turns (others : Nat → World → World) :
    Nat → World → List (Action World Child) → World → Prop
  | nil {turn : Nat} {world : World} : Turns others turn world [] world
  | cons {turn : Nat} {world after : World} {action : Action World Child}
      {actions : List (Action World Child)} (before : action.before = others turn world)
      (rest : Turns others (turn + 1) action.after actions after) :
      Turns others turn world (action :: actions) after

/-- An action of a launch of some commands. -/
inductive Performed (machine : Machine World Log Child) (mode : Mode)
    (commands : List Invocation) : Action World Child → Prop
  | openLog {command : Invocation} (member : command ∈ commands) (before : World) :
      Performed machine mode commands
        ⟨.openLog command.logPath, before, (machine.openLog before command.logPath).2⟩
  | copyLog (before : World) (log : Log) :
      Performed machine mode commands ⟨.copyLog, before, (machine.copyLog before log).2⟩
  | start {command : Invocation} (member : command ∈ commands) (before : World)
      (output errors : Log) :
      Performed machine mode commands ⟨.start command.program command.args, before,
        (machine.start before command.program command.args output errors).2⟩
  | buildPool {timeout : Timeout} (waits : mode = .collecting timeout) (before : World)
      (threads : Nat) :
      Performed machine mode commands
        ⟨.buildPool threads, before, (machine.buildPool before threads).2⟩
  | await {timeout : Timeout} (waits : mode = .collecting timeout) (before : World)
      (threads : Nat) (calls : List (WaitCall Child)) :
      Performed machine mode commands
        ⟨.await threads calls, before, (machine.await before threads calls).2⟩

/-- Between two states of a watched machine there are only actions of a launch, and the turns of
others. -/
def Passes (others : Nat → World → World) (machine : Machine World Log Child) (mode : Mode)
    (commands : List Invocation) (state after : World × List (Action World Child)) : Prop :=
  ∃ actions, after.2 = state.2 ++ actions ∧ Turns others state.2.length state.1 actions after.1 ∧
    ∀ action ∈ actions, Performed machine mode commands action

variable {others : Nat → World → World} {machine : Machine World Log Child} {mode : Mode}
  {command : Invocation} {commands : List Invocation} {turn : Nat} {world middle : World}
  {result : Except SpawnError Child} {results : List (Except SpawnError Child)}
  {state next after : World × List (Action World Child)}
  {actions actions' : List (Action World Child)}

theorem Turns.append (first : Turns others turn world actions middle) {world' : World}
    (rest : Turns others (turn + actions.length) middle actions' world') :
    Turns others turn world (actions ++ actions') world' := by
  induction first with
  | nil => exact rest
  | cons before later ih =>
      rw [List.length_cons, Nat.add_comm _ 1, ← Nat.add_assoc] at rest
      exact .cons before (ih rest)

theorem Passes.refl : Passes others machine mode commands state state :=
  ⟨[], (List.append_nil _).symm, .nil, by simp⟩

theorem Passes.trans (first : Passes others machine mode commands state next)
    (rest : Passes others machine mode commands next after) :
    Passes others machine mode commands state after := by
  obtain ⟨actions, told, turns, performed⟩ := first
  obtain ⟨actions', told', turns', performed'⟩ := rest
  refine ⟨actions ++ actions', by rw [told', told, List.append_assoc], ?_, ?_⟩
  · rw [told, List.length_append] at turns'
    exact turns.append turns'
  · intro action member
    rcases List.mem_append.mp member with early | late
    · exact performed action early
    · exact performed' action late

theorem passes_one {action : Action World Child}
    (before : action.before = others state.2.length state.1)
    (performed : Performed machine mode commands action) :
    Passes others machine mode commands state (action.after, state.2 ++ [action]) :=
  ⟨[action], rfl, .cons before .nil, by simpa using performed⟩

theorem passes_openLog {log : Option Log} (member : command ∈ commands)
    (opened : (watched others machine).openLog state command.logPath = (log, next)) :
    Passes others machine mode commands state next := by
  obtain rfl := congrArg Prod.snd opened
  exact passes_one rfl (.openLog member _)

theorem passes_copyLog {log : Log} {copy : Option Log}
    (copied : (watched others machine).copyLog state log = (copy, next)) :
    Passes others machine mode commands state next := by
  obtain rfl := congrArg Prod.snd copied
  exact passes_one rfl (.copyLog _ log)

theorem passes_start {output errors : Log} {child : Option Child} (member : command ∈ commands)
    (began : (watched others machine).start state command.program command.args output errors =
      (child, next)) : Passes others machine mode commands state next := by
  obtain rfl := congrArg Prod.snd began
  exact passes_one rfl (.start member _ output errors)

theorem passes_waits {timeout : Timeout} (waits : mode = .collecting timeout) (jobs : Nat)
    (children : List Child) :
    Passes others machine mode commands state
      (mode.waits (watched others machine) state jobs children).world := by
  subst waits
  rw [Mode.waits]
  cases built : (watched others machine).buildPool state (max jobs 1) with
  | mk answer ready =>
      have pool : Passes others machine (.collecting timeout) commands state ready := by
        obtain rfl := congrArg Prod.snd built
        exact passes_one rfl (.buildPool rfl _ _)
      cases answer with
      | false => exact pool
      | true => exact pool.trans (passes_one rfl (.await rfl _ _ _))

theorem Tried.passes (tried : Tried (watched others machine) command state result after)
    (member : command ∈ commands) : Passes others machine mode commands state after := by
  cases tried with
  | noLog refused => exact passes_openLog member refused
  | noCopy granted refused => exact (passes_openLog member granted).trans (passes_copyLog refused)
  | noStart granted copies refused =>
      exact ((passes_openLog member granted).trans (passes_copyLog copies)).trans
        (passes_start member refused)
  | started granted copies began =>
      exact ((passes_openLog member granted).trans (passes_copyLog copies)).trans
        (passes_start member began)

theorem Starts.passes (starts : Starts (watched others machine) state commands results after) :
    ∀ whole : List Invocation, (∀ command ∈ commands, command ∈ whole) →
      Passes others machine mode whole state after := by
  induction starts with
  | nil =>
      intro whole within
      exact .refl
  | cons first rest ih =>
      intro whole within
      obtain ⟨member, later⟩ := List.forall_mem_cons.mp within
      exact (first.passes member).trans (ih whole later)

theorem attempted_subset (mode : Mode) (jobs : List Job) : mode.attempted jobs ⊆ jobs := by
  cases mode with
  | dryRun => exact List.nil_subset jobs
  | detached => exact List.Subset.refl jobs
  | collecting timeout => exact List.Subset.refl jobs

theorem execute_passes (others : Nat → World → World) (machine : Machine World Log Child)
    (mode : Mode) (settings : Settings) (dir : String) (jobs : List Job) (out : Sink)
    (state : World × List (Action World Child)) :
    Passes others machine mode (jobs.map (.ofBatch settings dir)) state
      (mode.execute (watched others machine) settings dir jobs out state).world := by
  have starts := spawnAll_starts (watched others machine) settings dir (mode.attempted jobs) state
  have made : Passes others machine mode _ state _ :=
    starts.passes _ fun _ member => List.map_subset _ (attempted_subset mode jobs) member
  rw [execute_world]
  cases mode with
  | dryRun => exact made
  | detached => exact made
  | collecting timeout => exact made.trans (passes_waits rfl _ _)

end BatchLaunch.Launch
