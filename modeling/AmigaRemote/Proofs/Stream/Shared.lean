import AmigaRemote.Proofs.Stream.Outcomes
import AmigaRemote.Proofs.Stream.Usage
import Mathlib.Logic.Relation

/-! A connection in use, step by step. One thread gives commands and follows one stream after the
other, and meanwhile anyone who holds what is left of a session, this one or an earlier one, may ask
for it to be stopped. -/

namespace AmigaRemote

open Relation (ReflTransGen)

/-- What the thread that uses a connection is about. -/
inductive Stage where
  | commands
  /-- A stream was asked for, and its status line is to be read. -/
  | opening (request : StreamRequest)
  /-- The stream was refused, and the sentinel is to be read. -/
  | refused
  /-- A session is open. -/
  | following (stream : Stream) (point : Point)
  /-- The stream is over, and the answer to a stop that came too late is to be read. -/
  | answering (stream : Stream)

/-- The stream of the session that is open, if one is. -/
def Stage.stream? : Stage → Option Stream
  | following stream _ => some stream
  | answering stream => some stream
  | _ => none

/-- The stage with another stream in place of the one that it has. -/
def Stage.withStream (stream : Stream) : Stage → Stage
  | following _ point => following stream point
  | answering _ => answering stream
  | stage => stage

/-- Where the stream is put back nothing changes. -/
theorem Stage.withStream_self {stage : Stage} {stream : Stream}
    (found : stage.stream? = some stream) : stage.withStream stream = stage := by
  -- Only two stages hold a stream, and putting it back rebuilds the stage.
  cases stage with
  | following => exact congrArg (Stage.following · _) (Option.some.inj found).symm
  | answering => exact congrArg Stage.answering (Option.some.inj found).symm
  | _ => rfl

/-- The stream that took the place of another one is the one that is found. -/
theorem Stage.stream?_withStream {stage : Stage} {stream : Stream}
    (found : stage.stream? = some stream) (after : Stream) :
    (stage.withStream after).stream? = some after := by
  -- As above, stage by stage.
  cases stage with
  | following => rfl
  | answering => rfl
  | _ => cases found

/-- Whether to ask for a stop writes one. -/
def Session.writesStop (s : Session) : Bool :=
  s.stream.phase = .armed &&
    (s.connection.sink.sendCommand s.connection.settings.encoding .stop).1.isOk

/-- Where no stop may be written none is. -/
theorem Session.writesStop_unarmed {s : Session} (unarmed : s.stream.phase ≠ .armed) :
    s.writesStop = false := by
  -- The first test of a request is for the right to it.
  simp [writesStop, unarmed]

/-- Where a stop is written its bytes are taken. -/
theorem Session.writesStop_taken {s : Session} (writes : s.writesStop = true) :
    (requestStop s).2.connection.sink.taken = s.connection.sink.taken ++ stopLine := by
  -- Of the three ways in which a stop is requested, only one writes it.
  have requested := requestStop_requested s
  generalize requestStop s = outcome at requested ⊢
  cases requested with
  | unarmed unarmed =>
    rw [writesStop_unarmed unarmed] at writes
    cases writes
  | written _ attempt =>
    obtain ⟨bytes, encoded, taken⟩ := Sink.sendCommand_ok attempt
    rw [encode_stop] at encoded
    cases encoded
    exact taken
  | refused _ attempt => simp [writesStop, attempt, Except.isOk, Except.toBool] at writes

/-- A thread that does not go back to commands leaves a stream in step. -/
theorem Session.InStep.advance {s : Session} (inStep : InStep s) {point : Point}
    (staying : ∀ event, point ≠ .leaving event) : InStep (s.advance point).2 := by
  cases point with
  | idle =>
    simp only [Session.advance]
    split <;> exact inStep
  | took taken =>
    intro streams
    rcases taken with e | chunk
    · cases streams
    · -- Only a block lets a stream go on, and then nothing happens to the connection.
      rcases chunk.block_or_end with ⟨body, rfl⟩ | ⟨why, rfl⟩
      · exact inStep ((s.stream.pass_state _ body).symm.trans streams)
      · rw [advance_ofEnd] at streams
        have goesOn := Stream.isOver_eq_false.mpr streams
        exact absurd (goesOn.symm.trans (s.stream.conclude_isOver why)) (by decide)
  | leaving event => exact absurd rfl (staying event)

/-- A connection in use. -/
structure Shared where
  connection : Connection
  stage : Stage
  /-- The streams of the sessions before, last one first. -/
  earlier : List Stream
  /-- Whether a stop was written for the session that is open. -/
  stopped : Bool

namespace Shared

/-- A connection before its first use. -/
def start (c : Connection) : Shared :=
  ⟨c, .commands, [], false⟩

/-- The connection once something was done with the session that is open. -/
def goOn (x : Shared) (point : Point) (s : Session) : Shared :=
  { x with connection := s.connection, stage := .following s.stream point }

/-- All that can happen to a connection in use. -/
inductive Next (x : Shared) : Shared → Prop where
  /-- Anything that a client can ask for but a stream. -/
  | operate {op : Operation} (commands : x.stage = .commands)
    (single : ∀ request, op ≠ .openStream request) :
    Next x { x with connection := (op.perform x.connection).2 }
  | ask {request : StreamRequest} {c : Connection} (commands : x.stage = .commands)
    (sent : Connection.send request.command x.connection = (.ok (), c)) :
    Next x { x with connection := c, stage := .opening request }
  | unasked {request : StreamRequest} {e : ClientError} {c : Connection}
    (commands : x.stage = .commands)
    (failed : Connection.send request.command x.connection = (.error e, c)) :
    Next x { x with connection := c }
  | opened {request : StreamRequest} {info : Text} {c : Connection}
    (opening : x.stage = .opening request)
    (heard : Connection.receive Reader.readStatus x.connection = (.ok (.ok, info), c)) :
    Next x {
      connection := { c with waitLimit? := c.settings.streamLimit? }
      stage := .following ⟨request.kind, info, .streaming, .armed, false, none⟩ .idle
      earlier := x.earlier
      stopped := false }
  | refused {request : StreamRequest} {info : Text} {c : Connection}
    (opening : x.stage = .opening request)
    (heard : Connection.receive Reader.readStatus x.connection = (.ok (.err, info), c)) :
    Next x { x with connection := c, stage := .refused }
  | unheard {request : StreamRequest} {e : ClientError} {c : Connection}
    (opening : x.stage = .opening request)
    (failed : Connection.receive Reader.readStatus x.connection = (.error e, c)) :
    Next x { x with connection := c, stage := .commands }
  | dismissed (refused : x.stage = .refused) :
    Next x { x with
      connection := (Connection.receive Reader.expectSentinel x.connection).2, stage := .commands }
  /-- The thread of the session takes a chunk, or looks at one that it took. -/
  | advance {stream : Stream} {point : Point} (following : x.stage = .following stream point)
    (staying : ∀ event, point ≠ .leaving event) :
    Next x (x.goOn (Session.advance ⟨x.connection, stream⟩ point).1
      (Session.advance ⟨x.connection, stream⟩ point).2)
  /-- The thread of the session goes back to commands, or on to the answer to a late stop. -/
  | leave {stream : Stream} {event : StreamEvent}
    (following : x.stage = .following stream (.leaving event)) :
    Next x { x with
      connection := { x.connection with waitLimit? := x.connection.settings.replyLimit? }
      stage := if stream.crossedStop then .answering stream else .following stream .idle }
  | answered {stream : Stream} {response : Response} {c : Connection}
    (answering : x.stage = .answering stream)
    (heard : Connection.receive Reader.readResponse x.connection = (.ok response, c)) :
    Next x { x with connection := c, stage := .following stream .idle }
  | unanswered {stream : Stream} {e : ClientError} {c : Connection}
    (answering : x.stage = .answering stream)
    (failed : Connection.receive Reader.readResponse x.connection = (.error e, c)) :
    Next x { x with connection := c, stage := .following { stream with state := .broken } .idle }
  /-- The thread of the session stops it. -/
  | stop {stream : Stream} (following : x.stage = .following stream .idle)
    (goesOn : stream.state = .streaming) :
    Next x { x.goOn .idle (Session.stop ⟨x.connection, stream⟩).2 with
      stopped := x.stopped || Session.writesStop ⟨x.connection, stream⟩ }
  /-- Anyone else stops it, wherever its thread is. -/
  | stopElsewhere {stream : Stream} (open_ : x.stage.stream? = some stream) :
    Next x { x with
      connection := (Session.requestStop ⟨x.connection, stream⟩).2.connection
      stage := x.stage.withStream (Session.requestStop ⟨x.connection, stream⟩).2.stream
      stopped := x.stopped || Session.writesStop ⟨x.connection, stream⟩ }
  /-- Anyone asks for an earlier session to be stopped, at any time. -/
  | stopEarlier {stream : Stream} {front behind : List Stream}
    (held : x.earlier = front ++ stream :: behind) :
    Next x { x with
      connection := (Session.requestStop ⟨x.connection, stream⟩).2.connection
      earlier := front ++ (Session.requestStop ⟨x.connection, stream⟩).2.stream :: behind }
  /-- A session comes to its end, and what is left of it may still be held. -/
  | giveUp {stream : Stream} (following : x.stage = .following stream .idle)
    (done : stream.isOver = true ∨ x.connection.health ≠ .ready) :
    Next x { x with stage := .commands, earlier := stream :: x.earlier }

/-- All that can come about from a connection in use. -/
abbrev Reach : Shared → Shared → Prop :=
  ReflTransGen Next

variable {x : Shared} {stream : Stream}

/-- A step of the thread of a session is one of the connection, or two of them. -/
theorem reach_thread {point : Point} (following : x.stage = .following stream point) :
    Reach x (x.goOn (Session.advance ⟨x.connection, stream⟩ point).1
      (Session.advance ⟨x.connection, stream⟩ point).2) := by
  cases point with
  | idle => exact .single (.advance following nofun)
  | took taken => exact .single (.advance following nofun)
  | leaving event =>
    have left := Next.leave following
    -- The limit is set first, and an answer is read after that.
    cases crossed : stream.crossedStop with
    | false =>
      simp only [crossed, Bool.false_eq_true, if_false] at left
      simp only [Session.advance, @Session.finish_uncrossed ⟨x.connection, stream⟩ crossed]
      exact .single left
    | true =>
      simp only [crossed, if_true] at left
      let quick := { x.connection with waitLimit? := x.connection.settings.replyLimit? }
      rcases heard : Connection.receive Reader.readResponse quick with ⟨e | response, c⟩
      · have done : (Session.finish ⟨x.connection, stream⟩).2
            = ⟨c, { stream with state := .broken }⟩ := by
          simp [Session.finish, Session.onConnection, Connection.leaveStream,
            Connection.setWaitLimit, Step.bind_apply, crossed, quick, heard, Session.enter,
            Session.update]
        simp only [Session.advance, done]
        exact .tail (.single left) (.unanswered rfl heard)
      · have done : (Session.finish ⟨x.connection, stream⟩).2 = ⟨c, stream⟩ := by
          simp [Session.finish, Session.onConnection, Connection.leaveStream,
            Connection.setWaitLimit, Step.bind_apply, crossed, quick, heard]
        simp only [Session.advance, done]
        exact .tail (.single left) (.answered rfl heard)

/-- Where nothing was done the connection is as it was. -/
theorem goOn_self {point : Point} (following : x.stage = .following stream point) :
    x.goOn point ⟨x.connection, stream⟩ = x := by
  -- All three parts that are set are those that were there.
  rw [goOn, ← following]

/-- Steps of the thread are steps of the connection. -/
theorem reach_threads (following : x.stage = .following stream .idle) (n : Nat) :
    Reach x (x.goOn (Nat.repeat Session.thread n (.idle, ⟨x.connection, stream⟩)).1
      (Nat.repeat Session.thread n (.idle, ⟨x.connection, stream⟩)).2) := by
  -- By induction on the steps of the thread.
  induction n with
  | zero =>
    rw [Nat.repeat, goOn_self following]
  | succ n ih => exact ih.trans (reach_thread rfl)

/-- The next event of a session is a run of its thread. -/
theorem reach_nextEvent (following : x.stage = .following stream .idle) :
    Reach x (x.goOn .idle (Session.nextEvent ⟨x.connection, stream⟩).2) := by
  -- A call of `nextEvent` is a few steps of the thread on end.
  obtain ⟨n, _, steps⟩ := Session.nextEvent_thread ⟨x.connection, stream⟩
  have ran := reach_threads following n
  rwa [steps] at ran

/-- The connection while a session is open, whether it was stopped or not. -/
def Follows (x : Shared) (s : Session) (y : Shared) : Prop :=
  Reach x y ∧ y.connection = s.connection ∧ y.stage = .following s.stream .idle

variable {s : Session} {y : Shared}

/-- The next event leads on. -/
theorem Follows.nextEvent (follows : Follows x s y) :
    ∃ z, Follows x s.nextEvent.2 z := by
  -- The connection and the stream of the session are those of the shared stage.
  obtain ⟨reached, same, following⟩ := follows
  have event := reach_nextEvent following
  rw [same] at event
  exact ⟨_, reached.trans event, rfl, rfl⟩

/-- A stop from within leads on. -/
theorem Follows.stop (follows : Follows x s y) : ∃ z, Follows x s.stop.2 z := by
  obtain ⟨reached, same, following⟩ := follows
  -- Over already, nothing happens; otherwise the stop is a step of the shared connection.
  by_cases isOver : s.stream.isOver = true
  · rw [Session.stop_over isOver]
    exact ⟨y, reached, same, following⟩
  · have stopped := Next.stop following (Stream.isOver_eq_false.mp (by simpa using isOver))
    rw [same] at stopped
    exact ⟨_, reached.tail stopped, rfl, rfl⟩

/-- A stop from elsewhere leads on. -/
theorem Follows.stopElsewhere (follows : Follows x s y) : ∃ z, Follows x s.stopElsewhere.2 z := by
  obtain ⟨reached, same, following⟩ := follows
  -- The handle steps by itself, whatever the thread is about.
  have stopped := @Next.stopElsewhere y s.stream (by rw [following]; rfl)
  rw [same, following] at stopped
  exact ⟨_, reached.tail stopped, rfl, rfl⟩

/-- To read a stream to its end leads on. -/
theorem Follows.discard (follows : Follows x s y) : ∃ z, Follows x s.discard.2 z := by
  have next := follows.nextEvent
  -- By induction on the events that are thrown away.
  fun_induction Session.discard s generalizing y with
  | case1 s after found =>
    rwa [found] at next
  | case2 s e after found =>
    rwa [found] at next
  | case3 s event after found _ ih =>
    rw [found] at next
    obtain ⟨z, follows⟩ := next
    exact ih follows follows.nextEvent

/-- To cancel leads on. -/
theorem Follows.cancel (follows : Follows x s y) : ∃ z, Follows x s.cancel.2 z := by
  -- To cancel is a stop and then to discard, each of which leads on.
  have keeps : Step.Keeps (fun s => ∃ y, Follows x s y) Session.cancel := by
    refine Step.Keeps.bind ?_ fun _ => .bind ?_ fun _ => .bind .get fun _ => .pure _
    · exact fun _ ⟨_, follows⟩ => follows.stop
    · exact fun _ ⟨_, follows⟩ => follows.discard
  exact keeps ⟨y, follows⟩

/-- What is given up is over, or over a connection that is of no use. -/
theorem release_done (s : Session) :
    s.release.stream.isOver = true ∨ s.release.connection.health ≠ .ready := by
  -- It was over or not ready from the start, or it is after the cancelling.
  unfold Session.release
  split
  · assumption
  · exact .inl (Session.cancel_isOver s)

/-- To give up a session leads back to commands. -/
theorem Follows.giveUp (follows : Follows x s y) :
    ∃ z, Reach x z ∧ z.connection = s.release.connection ∧ z.stage = .commands := by
  -- Whatever is given up is cancelled first, if that is of any use.
  have released : ∃ z, Follows x s.release z := by
    unfold Session.release
    split
    · exact ⟨y, follows⟩
    · exact follows.cancel
  obtain ⟨z, reached, same, following⟩ := released
  have done := release_done s
  rw [← same] at done
  -- The last step hands the connection back to commands.
  exact ⟨_, reached.tail (.giveUp following done), same, rfl⟩

/-- A connection that stands where a client in use does. -/
def At (x : Shared) : Usage → Shared → Prop
  | .commands c, y => Reach x y ∧ y.connection = c ∧ y.stage = .commands
  | .streaming s, y => Follows x s y

/-- Both have the same connection. -/
theorem At.connection {usage : Usage} (at_ : At x usage y) : y.connection = usage.connection := by
  -- Both kinds of use are tied to the connection.
  cases usage with
  | commands => exact at_.2.1
  | streaming => exact at_.2.1

/-- A request for a stream leads to a session, or back to commands. -/
theorem reach_openStream (commands : x.stage = .commands) (request : StreamRequest) :
    ∃ y, At x ((Usage.commands x.connection).step (.operate (.openStream request))) y := by
  have failed {e : ClientError} {y : Shared} (reached : Reach x y)
      (atCommands : y.stage = .commands)
      (failed : Connection.openStream request x.connection = (.error e, y.connection)) :
      ∃ y, At x ((Usage.commands x.connection).step (.operate (.openStream request))) y := by
    simp only [Usage.step, failed]
    exact ⟨y, reached, rfl, atCommands⟩
  rcases sent : Connection.send request.command x.connection with ⟨e | _, c⟩
  · exact failed (.single (.unasked commands sent)) commands (Step.bind_error sent _)
  · -- What is heard decides whether there is a stream.
    have asked : Reach x _ := .single (.ask commands sent)
    rcases heard : Connection.receive Reader.readStatus c with ⟨e | ⟨_ | _, info⟩, c'⟩
    · exact failed (asked.tail (.unheard rfl heard)) rfl
        (Step.bind_eq_error.mpr (.inr ⟨_, _, sent, Step.bind_error heard _⟩))
    · have opened : Connection.openStream request x.connection = (.ok _, _) :=
        Step.bind_eq_ok.mpr ⟨_, _, sent, Step.bind_eq_ok.mpr ⟨_, _, heard, rfl⟩⟩
      simp only [Usage.step, opened]
      exact ⟨_, asked.tail (.opened rfl heard), rfl, rfl⟩
    · have dismissed := (asked.tail (.refused rfl heard)).tail (.dismissed rfl)
      -- Whether or not the sentinel follows, there is no stream.
      rcases last : Connection.receive Reader.expectSentinel c' with ⟨e | _, c''⟩
      all_goals rw [last] at dismissed
      · exact failed dismissed rfl (Step.bind_eq_error.mpr (.inr ⟨_, _, sent,
          Step.bind_eq_error.mpr (.inr ⟨_, _, heard, Step.bind_error last _⟩)⟩))
      · exact failed dismissed rfl (Step.bind_eq_error.mpr (.inr ⟨_, _, sent,
          Step.bind_eq_error.mpr (.inr ⟨_, _, heard,
            Step.bind_eq_error.mpr (.inr ⟨_, _, last, rfl⟩)⟩)⟩))

/-- Whatever a client in use does, its connection goes through steps of its own. -/
theorem At.step {usage : Usage} (at_ : At x usage y) (act : Act) :
    ∃ z, At x (usage.step act) z := by
  -- Each act of the client is a step, or a few, of the shared connection.
  cases usage with
  | commands c =>
    obtain ⟨reached, rfl, commands⟩ := at_
    cases act with
    | operate op =>
      -- A request for a stream is made of several steps, every other operation is one of them.
      by_cases opens : ∃ request, op = .openStream request
      · obtain ⟨request, rfl⟩ := opens
        obtain ⟨z, later⟩ := reach_openStream commands request
        refine ⟨z, ?_⟩
        generalize (Usage.commands y.connection).step _ = usage at later ⊢
        cases usage with
        | commands c => exact ⟨reached.trans later.1, later.2⟩
        | streaming s => exact ⟨reached.trans later.1, later.2⟩
      · have single : ∀ request, op ≠ .openStream request := fun request same =>
          opens ⟨request, same⟩
        have same : (Usage.commands y.connection).step (.operate op)
            = .commands (op.perform y.connection).2 := by
          cases op with
          | openStream request => exact absurd rfl (single request)
          | _ => rfl
        rw [same]
        exact ⟨_, reached.tail (.operate commands single), rfl, commands⟩
    | _ => exact ⟨y, reached, rfl, commands⟩
  | streaming s =>
    cases act with
    | operate op => exact ⟨y, at_⟩
    | nextEvent => exact Follows.nextEvent at_
    | stop => exact Follows.stop at_
    | cancel => exact Follows.cancel at_
    | stopElsewhere => exact Follows.stopElsewhere at_
    | giveUp => exact Follows.giveUp at_

/-- A whole run of a client in use is a run of its connection. -/
theorem At.run {usage : Usage} (at_ : At x usage y) (acts : List Act) :
    ∃ z, At x (usage.run acts) z := by
  -- By induction on the acts.
  induction acts generalizing usage y with
  | nil => exact ⟨y, at_⟩
  | cons act acts ih =>
    obtain ⟨z, later⟩ := at_.step act
    exact ih later

/-- A stream goes on only over a usable connection, and is asked for over no other. -/
structure InStep (x : Shared) : Prop where
  opening : ∀ request, x.stage = .opening request → x.connection.health = .ready
  stream : ∀ stream, x.stage.stream? = some stream → Session.InStep ⟨x.connection, stream⟩

/-- Among commands there is nothing to be in step with. -/
theorem InStep.of_commands (commands : x.stage = .commands) : InStep x := by
  -- No stage among commands asks for a stream or has one.
  refine ⟨fun request asked => ?_, fun stream found => ?_⟩
  · rw [commands] at asked
    cases asked
  · rw [commands] at found
    cases found

/-- Where a session is open, that its stream is in step is all there is to it. -/
theorem InStep.of_stream {stream : Stream} (found : x.stage.stream? = some stream)
    (inStep : Session.InStep ⟨x.connection, stream⟩) : InStep x := by
  -- A stage with a stream asks for none, and has one stream only.
  refine ⟨fun request asked => ?_, fun other same => ?_⟩
  · rw [asked] at found
    cases found
  · obtain rfl := Option.some.inj (found.symm.trans same)
    exact inStep

/-- Every step leaves a connection in step. -/
theorem InStep.next (inStep : InStep x) (step : Next x y) : InStep y := by
  obtain ⟨opening, stream⟩ := inStep
  have heard {α : Type} {reading : Reading α} {a : α} {c : Connection}
      (ready : x.connection.isUsable = true)
      (heard : Connection.receive reading x.connection = (.ok a, c)) : c.isUsable = true := by
    have agrees := Connection.receive_truthful reading x.connection ready
    rwa [heard] at agrees
  cases step with
  | operate commands => exact .of_commands commands
  | @ask request c commands sent =>
    -- Over a connection of no use the request would not have been sent.
    refine ⟨fun _ _ => ?_, nofun⟩
    by_cases usable : x.connection.isUsable = true
    · have agrees := Connection.send_truthful request.command x.connection usable
      rw [sent] at agrees
      exact Connection.isUsable_iff.mp agrees
    · rw [Connection.send_inert _ _ (by simpa using usable)] at sent
      cases sent
  | unasked commands => exact .of_commands commands
  -- An answer was heard, so the connection is as good as it was before.
  | opened opens answer =>
    have usable := heard (Connection.isUsable_iff.mpr (opening _ opens)) answer
    exact .of_stream rfl fun _ => usable
  | refused => exact ⟨nofun, nofun⟩
  | unheard => exact .of_commands rfl
  | dismissed => exact .of_commands rfl
  | advance following staying =>
    have before := stream _ (by rw [following]; rfl)
    exact .of_stream rfl (before.advance staying)
  | @leave old _ following =>
    have before := stream old (by rw [following]; rfl)
    have found : (if old.crossedStop then Stage.answering old else .following old .idle).stream?
        = some old := by
      split <;> rfl
    exact .of_stream found before
  | answered answering answer =>
    have before := stream _ (by rw [answering]; rfl)
    exact .of_stream rfl fun streams => heard (before streams) answer
  | unanswered => exact .of_stream rfl nofun
  | stop following =>
    have before := stream _ (by rw [following]; rfl)
    exact .of_stream rfl (Session.stop_inStep before)
  | stopElsewhere open_ =>
    have stopped := Session.stopElsewhere_inStep (stream _ open_)
    exact .of_stream (Stage.stream?_withStream open_ _) stopped
  | @stopEarlier old =>
    -- A stop asked for takes no notice of the connection.
    have kept := Session.requestStop_health ⟨x.connection, old⟩
    refine ⟨fun request asked => kept.trans (opening request asked), fun found open_ streams => ?_⟩
    exact Connection.isUsable_iff.mpr
      (kept.trans (Connection.isUsable_iff.mp (stream found open_ streams)))
  | giveUp => exact .of_commands rfl

/-- Every run leaves a connection in step. -/
theorem InStep.reach (inStep : InStep x) (reached : Reach x y) : InStep y := by
  -- By induction on the run, with one step at its end.
  induction reached with
  | refl => exact inStep
  | tail _ step ih => exact ih.next step

end Shared
end AmigaRemote
