import BatchLaunch.Launch.DryRun
import BatchLaunch.Proofs.Launch.Starts
import BatchLaunch.Proofs.Text.Utf8

/-!
What a dry run writes. The pieces that lines are written in do not matter: a sink takes of them
what it would take of the whole text, so a dry run can be written exactly when its text fits. Where
there is room for part of it only, a sink may cut a piece anywhere and be offered the rest; what it
has in the end is the beginning of the whole text.
-/
namespace BatchLaunch

open Text (Utf8.encode)

namespace Sink

/-- Whether there is room for so many octets. -/
def Fits (sink : Sink) (count : Nat) : Prop := ∀ room, sink.room = some room → count ≤ room

theorem write_nil (sink : Sink) : sink.write [] = (sink, true) := by
  obtain ⟨taken, room⟩ := sink
  cases room with
  | none => simp [write]
  | some room => simp [write]

theorem write_fits (sink : Sink) (octets : Octets) :
    (sink.write octets).2 = true ↔ sink.Fits octets.length := by
  obtain ⟨taken, room⟩ := sink
  cases room with
  | none => simp [write, Fits]
  | some room => simp [write, Fits]

theorem write_append (sink : Sink) (front back : Octets) :
    sink.write (front ++ back) =
      if (sink.write front).2 then (sink.write front).1.write back
      else ((sink.write front).1, false) := by
  obtain ⟨taken, room⟩ := sink
  cases room with
  | none => simp [write]
  | some room =>
      by_cases fits : front.length ≤ room
      · have all : front.take room = front := List.take_of_length_le fits
        have rest : room - (front.length + back.length) = room - front.length - back.length := by
          omega
        have both : front.length + back.length ≤ room ↔ back.length ≤ room - front.length := by
          omega
        simp [write, fits, all, List.take_append, rest, both]
      · have part : room - front.length = 0 := by omega
        have none : room - (front.length + back.length) = 0 := by omega
        have cut : ¬ front.length + back.length ≤ room := by omega
        simp [write, fits, List.take_append, part, none, cut]

theorem writeAll_eq_write (sink : Sink) (pieces : List String) :
    sink.writeAll pieces = sink.write (pieces.flatMap Utf8.encode) := by
  induction pieces generalizing sink with
  | nil => rw [writeAll, List.flatMap_nil, write_nil]
  | cons piece pieces ih =>
      rw [writeAll, List.flatMap_cons, write_append]
      rcases sink.write (Utf8.encode piece) with ⟨after, whole⟩
      cases whole with
      | true => exact ih after
      | false => rfl

/-! A sink that may be offered the rest of what it cut. -/

/-- One offer: what fits is taken, and how much that is. Without room nothing is taken, and then
octets are refused. -/
def offer (sink : Sink) (octets : Octets) : Option (Nat × Sink) :=
  match sink.room with
  | none => some (octets.length, ⟨sink.taken ++ octets, none⟩)
  | some room =>
      if room = 0 ∧ octets ≠ [] then none
      else some (min room octets.length,
        ⟨sink.taken ++ octets.take room, some (room - octets.length)⟩)

/-- Offers what is left again and again, until nothing is left or nothing is taken. -/
def insist (sink : Sink) (octets : Octets) : Sink × Bool :=
  match octets with
  | [] => (sink, true)
  | octet :: rest =>
      match sink.offer (octet :: rest) with
      | none => (sink, false)
      | some (0, after) => (after, false)
      | some (count + 1, after) => after.insist (rest.drop count)
  termination_by octets.length
  decreasing_by
    rw [List.length_drop, List.length_cons]
    omega

/-- Insists on each part in order, up to the first that is not taken whole. -/
def insistAll (sink : Sink) : List Octets → Sink × Bool
  | [] => (sink, true)
  | part :: parts =>
      match sink.insist part with
      | (after, true) => after.insistAll parts
      | (after, false) => (after, false)

/-- A second offer is made only where the first was cut, and that is refused. -/
theorem insist_eq_write (sink : Sink) (octets : Octets) :
    sink.insist octets = sink.write octets := by
  cases octets with
  | nil => rw [insist, write_nil]
  | cons octet rest =>
      obtain ⟨taken, room⟩ := sink
      cases room with
      | none =>
          have all : rest.drop rest.length = [] := List.drop_length
          simp [insist, offer, write, all]
      | some room =>
          cases room with
          | zero => simp [insist, offer, write]
          | succ room =>
              by_cases fits : rest.length ≤ room
              · have all : rest.drop rest.length = [] := List.drop_length
                simp [insist, offer, write, fits, all]
              · have cut : min room rest.length = room := by omega
                have full : room - rest.length = 0 := by omega
                obtain ⟨next, later, left⟩ := List.exists_cons_of_ne_nil
                  (show rest.drop room ≠ [] by simpa using fits)
                simp [insist, offer, write, fits, cut, full, left]

theorem insistAll_eq_write (sink : Sink) (parts : List Octets) :
    sink.insistAll parts = sink.write parts.flatten := by
  induction parts generalizing sink with
  | nil => rw [insistAll, List.flatten_nil, write_nil]
  | cons part parts ih =>
      rw [insistAll, List.flatten_cons, write_append, insist_eq_write]
      rcases sink.write part with ⟨after, whole⟩
      cases whole with
      | true => exact ih after
      | false => rfl

theorem write_bounded (limit : Nat) (octets : Octets) :
    (bounded limit).write octets =
      (⟨octets.take limit, some (limit - octets.length)⟩, decide (octets.length ≤ limit)) := rfl

end Sink

namespace DryRun

/-- What a dry run has to write. -/
def text (settings : Settings) (dir : String) (jobs : List Job) : String :=
  String.join (jobs.map fun job => (Invocation.ofBatch settings dir job).line ++ "\n")

theorem text_cons (settings : Settings) (dir : String) (job : Job) (jobs : List Job) :
    text settings dir (job :: jobs) =
      (Invocation.ofBatch settings dir job).line ++ "\n" ++ text settings dir jobs := by
  simp [text]

theorem encode_line (command : Invocation) :
    (command.pieces ++ ["\n"]).flatMap Utf8.encode = Utf8.encode (command.line ++ "\n") := by
  simp [Utf8.encode, Invocation.line, Invocation.pieces]

theorem writeJobs_eq_write (settings : Settings) (dir : String) (jobs : List Job) (sink : Sink) :
    writeJobs settings dir jobs sink = sink.write (Utf8.encode (text settings dir jobs)) := by
  induction jobs generalizing sink with
  | nil => exact (Sink.write_nil sink).symm
  | cons job jobs ih =>
      rw [writeJobs, Sink.writeAll_eq_write, text_cons, Text.Utf8.encode_append, Sink.write_append,
        ← encode_line]
      rw [Invocation.ofBatch]
      rcases sink.write (((((Invocation.ofJob settings job).within dir).pieces ++
        ["\n"]).flatMap Utf8.encode)) with ⟨after, whole⟩
      cases whole with
      | true => exact ih after
      | false => rfl

/-- A dry run gives a report exactly when its text fits, and writes what fits of it. -/
theorem execute_eq (settings : Settings) (dir : String) (jobs : List Job) (sink : Sink) :
    execute settings dir jobs sink =
      let written := sink.write (Utf8.encode (text settings dir jobs))
      (written.1, if written.2 then .ok ⟨jobs.map fun job => (job, .printed)⟩
        else .error .output) := by
  rw [execute, writeJobs_eq_write]
  rcases sink.write (Utf8.encode (text settings dir jobs)) with ⟨after, whole⟩
  cases whole with
  | true => rfl
  | false => rfl

theorem execute_unbounded (settings : Settings) (dir : String) (jobs : List Job) :
    (execute settings dir jobs .unbounded).1.taken = Utf8.encode (text settings dir jobs) := by
  rw [execute_eq]
  simp [Sink.unbounded, Sink.write]

/-- What a dry run offers, fragment by fragment. -/
def fragments (settings : Settings) (dir : String) (jobs : List Job) : List Octets :=
  jobs.flatMap fun job => ((Invocation.ofBatch settings dir job).pieces ++ ["\n"]).map Utf8.encode

theorem flatten_fragments (settings : Settings) (dir : String) (jobs : List Job) :
    (fragments settings dir jobs).flatten = Utf8.encode (text settings dir jobs) := by
  induction jobs with
  | nil => rfl
  | cons job jobs ih =>
      rw [fragments] at ih ⊢
      rw [List.flatMap_cons, List.flatten_append, ih, text_cons, Text.Utf8.encode_append,
        ← encode_line, List.flatMap_def]

theorem encode_text_eq_nil_iff (settings : Settings) (dir : String) (jobs : List Job) :
    Utf8.encode (text settings dir jobs) = [] ↔ jobs = [] := by
  cases jobs with
  | nil => exact iff_of_true rfl rfl
  | cons job jobs =>
      have ended : Utf8.encode "\n" ≠ [] := by decide
      simp [text, Text.Utf8.encode_append, ended]

/-- Into limited room a dry run writes as much of its text as fits, and reports its jobs exactly
when that is the whole. It makes no difference that the text is offered in fragments, and each
fragment again from where it was cut. -/
theorem execute_bounded (settings : Settings) (dir : String) (jobs : List Job) (limit : Nat) :
    let whole := (execute settings dir jobs .unbounded).1.taken
    let limited := execute settings dir jobs (.bounded limit)
    limited.1.taken = whole.take (min limit whole.length) ∧
    (limited.2 = .ok ⟨jobs.map fun job => (job, .printed)⟩ ↔ whole.length ≤ limit) ∧
    (limited.2 = .error .output ↔ limit < whole.length) ∧
    (execute settings dir jobs (.bounded whole.length)).2.isOk ∧
    ((execute settings dir jobs (.bounded 0)).2.isOk ↔ jobs = []) ∧
    (Sink.bounded limit).insistAll (fragments settings dir jobs) =
      (limited.1, limited.2.isOk) := by
  intro whole limited
  have same : whole = Utf8.encode (text settings dir jobs) := execute_unbounded settings dir jobs
  have written (room : Nat) : execute settings dir jobs (.bounded room) =
      (⟨whole.take room, some (room - whole.length)⟩,
        if whole.length ≤ room then .ok ⟨jobs.map fun job => (job, .printed)⟩
        else .error .output) := by
    rw [execute_eq, ← same, Sink.write_bounded]
    simp only [decide_eq_true_eq]
  refine ⟨?_, ?_, ?_, ?_, ?_, ?_⟩
  · simp only [limited, written]
    rw [← List.take_take, List.take_length]
  · simp [limited, written]
  · simp [limited, written]
  · simp [written, Except.isOk, Except.toBool]
  · rw [written, ← encode_text_eq_nil_iff settings dir, ← same]
    split <;> simp_all [Except.isOk, Except.toBool]
  · rw [Sink.insistAll_eq_write, flatten_fragments, ← same, Sink.write_bounded]
    simp only [limited, written]
    by_cases fits : whole.length ≤ limit <;> simp [fits, Except.isOk, Except.toBool]

end DryRun
end BatchLaunch
