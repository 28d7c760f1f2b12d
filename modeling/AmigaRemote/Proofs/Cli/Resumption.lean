import AmigaRemote.Cli.Plan
import AmigaRemote.Proofs.Client.Patience
import AmigaRemote.Proofs.Cli.Completion

/-! A run that waits and is resumed with what arrives is the run that had all of it from the
start. -/

namespace AmigaRemote

open Growing (Open Starved)

/-- A session over a connection to which more has arrived. -/
def Session.grow (arrived : List Delivery) (ending : Ending) (s : Session) : Session :=
  { s with connection := s.connection.grow arrived ending }

instance : Growing Session where
  reader s := s.connection.reader
  grow := Session.grow

namespace Session

end Session

namespace Cli

namespace Acting

variable {α : Type}

/-- To ask is patient if the client is. -/
theorem ask_patient {client : Client α} (patient : Patient client) : Patient (ask client) where
  -- The question is the client's, and so are the bytes that it waits for.
  hungry := ask_keeps patient.hungry
  foreseen := fun c isOpen => (patient.foreseen c isOpen).imp id fun ⟨isOpen', same⟩ =>
    ⟨isOpen', fun arrived ending => by simp only [ask, same]⟩

/-- What is asked and shown is patient. -/
theorem tell_patient (op : Operation) (report : op.Result → List Emission) :
    Patient (tell op.perform report) :=
  -- Nothing is asked of the daemon once the result is there.
  (ask_patient op.perform_patient).bind fun _ => .pure _

/-- A download is patient. -/
theorem download_patient (m : Manner) (files : LocalFiles) (remote : Text) (target : Path) :
    Patient (download m files remote target) := by
  refine (ask_patient (Operation.perform_patient (.read remote))).bind fun content => ?_
  -- Whether the file can be written is no matter of what arrives.
  split
  · exact .throw _
  · exact .pure _

/-- An upload is patient. -/
theorem upload_patient (m : Manner) (files : LocalFiles) (source : Path) (remote : Text) :
    Patient (upload m files source remote) := by
  unfold upload
  -- The local file is read before the daemon is asked, and the same whatever arrives.
  split
  · exact .throw _
  · exact (ask_patient (Operation.perform_patient (.write remote _))).bind fun _ => .pure _

/-- An action that is one exchange is patient. -/
theorem perform_patient (m : Manner) (files : LocalFiles) (action : Action) :
    Patient (perform m files action) := by
  -- What is added to the operations is either local or done once they are over.
  have performed := performs m files action
  generalize perform m files action = acting at performed ⊢
  cases performed with
  | operation report isOperation =>
    exact .asks Connection.version (fun version => tell _ (report version)) (fun _ _ _ => rfl)
      fun version => tell_patient _ (report version)
  | download remote target => exact download_patient m files remote _
  | upload source remote => exact upload_patient m files source remote
  | exec command =>
    exact (ask_patient (Operation.perform_patient (.exec command))).bind fun _ => .pure _
  | stream request => exact .pure _
  | unconfirmed => exact tell_patient .shutdown _

end Acting

/-- What a run comes to once more has arrived. -/
def Progress.resume (arrived : List Delivery) (ending : Ending) : Progress → Progress
  | .finished outcome => .finished outcome
  | .waiting run => run.resume arrived ending

namespace Run

variable {c : Connection} {arrived : List Delivery} {ending : Ending} {r : Run} {stage : Stage}
  {after : Reader} {sent : Bytes} {next : Progress}

end Run
end Cli
end AmigaRemote
