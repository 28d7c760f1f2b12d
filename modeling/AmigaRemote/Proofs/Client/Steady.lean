import AmigaRemote.Proofs.Client.Keeping

/-! What an operation leaves alone whether it succeeds or not: the settings, how long is waited for
bytes, and that a connection is of no use once it is of none. -/

namespace AmigaRemote

/-- A connection later on: with the settings that it had, and of use only if it was so before. -/
structure Connection.Lasts (c after : Connection) : Prop where
  settings : after.settings = c.settings
  ready : after.health = .ready → c.health = .ready

/-- A connection later on that waits as long as it did. -/
structure Connection.Steady (c after : Connection) : Prop extends Lasts c after where
  limit : after.waitLimit? = c.waitLimit?

namespace Connection

variable {α : Type} {c : Connection}

/-- What nothing happened to is as it was. -/
theorem Steady.refl (c : Connection) : Steady c c :=
  -- Both parts of the relation are reflexive.
  ⟨⟨rfl, id⟩, rfl⟩

/-- What is left of a connection by an act that changes no limit. -/
theorem Steady.of_keeps {act : Client α} {result : Except ClientError α} {after : Connection}
    (keeps : Step.Keeps (Steady c) act) (done : act c = (result, after)) : Steady c after := by
  -- The act keeps what holds of its start, which is that nothing happened.
  have kept := keeps (.refl c)
  rwa [done] at kept

/-- A connection that waited for replies goes on to do so. -/
theorem Steady.reply {after : Connection} (steady : Steady c after)
    (reply : c.waitLimit? = c.settings.replyLimit?) :
    after.waitLimit? = after.settings.replyLimit? := by
  -- The limit and the settings are the same as before.
  rw [steady.limit, steady.settings, reply]

/-- The guard may break a connection, and no more. -/
theorem guard_steady (result : Except WireError α) : Step.Keeps (Steady c) (guard result) := by
  intro between steady
  -- An error that came before sending is let pass, any other breaks the connection.
  cases result with
  | ok a => exact steady
  | error e =>
    unfold guard
    dsimp only
    split
    · exact steady
    · exact ⟨⟨steady.settings, nofun⟩, steady.limit⟩

/-- To read changes no limit. -/
theorem receive_steady (reading : Reading α) : Step.Keeps (Steady c) (receive reading) := by
  intro between steady
  -- The reader is looked at neither by the guard nor by the limit.
  exact guard_steady (reading between.reader).1 (s := { between with reader := _ })
    ⟨⟨steady.settings, steady.ready⟩, steady.limit⟩

/-- To write changes no limit. -/
theorem transmit_steady (sending : Sink → Except WireError Unit × Sink) :
    Step.Keeps (Steady c) (transmit sending) := by
  intro between steady
  -- The sink is replaced first, and then the guard judges.
  exact guard_steady (sending between.sink).1 (s := { between with sink := _ })
    ⟨⟨steady.settings, steady.ready⟩, steady.limit⟩

/-- To hang up changes no limit. -/
theorem hangUp_steady : Step.Keeps (Steady c) hangUp := by
  intro between steady
  unfold hangUp
  -- Only a connection that is still open is closed.
  rw [Step.modify_apply]
  split
  · exact steady
  · exact ⟨⟨steady.settings, nofun⟩, steady.limit⟩

/-- None of the parts of an operation changes a limit. -/
theorem steady_preserved : Preserved (Steady c) where
  -- Reading is steady whatever is read, so that four of the parts are one lemma.
  guard := guard_steady
  transmit := transmit_steady
  line := receive_steady _
  sentinel := receive_steady _
  response := receive_steady _
  chunked := receive_steady _
  hangUp := hangUp_steady

/-- To send a command changes no limit. -/
theorem send_steady (command : Command) : Step.Keeps (Steady c) (send command) :=
  -- Sending is made of these parts.
  steady_preserved.send command

end Connection

/-- A daemon that has greeted is waited for as long as the settings say. -/
theorem Connection.greet_limit {settings : Settings} {source : Source} {sink : Sink}
    {c : Connection} (greeted : (greet settings source sink).1 = .ok c) :
    c.settings = settings ∧ c.waitLimit? = settings.replyLimit? := by
  unfold greet at greeted
  -- Without a greeting there is no connection.
  split at greeted
  · cases greeted
  · split at greeted
    · cases greeted
    · cases greeted
      exact ⟨rfl, rfl⟩

/-- No operation but a request for a stream changes how long is waited. -/
theorem Operation.perform_steady {op : Operation} (single : ∀ request, op ≠ .openStream request)
    (c : Connection) : Connection.Steady c (op.perform c).2 :=
  -- An operation is made of these parts, unless it opens a stream.
  Connection.steady_preserved.perform single (.refl c)

end AmigaRemote
