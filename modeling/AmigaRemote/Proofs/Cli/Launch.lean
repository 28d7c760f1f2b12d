import AmigaRemote.Proofs.Cli.Completion
import AmigaRemote.Proofs.Cli.Resumption

/-! What a command line comes to: its action over a connection whose daemon has greeted, or the
reason why it does not come to that. -/

namespace AmigaRemote

open Reader (Complete complete_preserved)

/-- A greeting has come whole, and is what the transport brings first. -/
theorem Connection.greet_came {settings : Settings} {source : Source} {sink : Sink} {c : Connection}
    {reader : Reader} (greets : greet settings source sink = (.ok c, reader)) :
    c.reader.encoding = settings.encoding ∧ ∃ layout : Layout,
      LineFrame settings.encoding c.banner layout.bytes ∧
        Delivery.flow source.deliveries = layout.bytes ++ c.reader.coming := by
  -- The greeting is the first line that is read, and is looked at only once it has come whole.
  rcases read : Reader.readLine (.ofSource source settings.encoding) with ⟨line, left⟩
  obtain ⟨leaves, rfl⟩ := Prod.mk.inj (greets.symm.trans (greet_of_line sink read))
  rcases line with e | banner
  · cases leaves
  · obtain ⟨layout, isLine, took⟩ := Reader.readLine_took read
    unfold greeted at leaves
    dsimp only at leaves
    split at leaves
    · cases leaves
    · cases leaves
      exact ⟨took.encoding, layout, isLine, took.coming⟩

namespace Cli

/-- What a command line comes to, over a transport if one comes about. -/
def launch (words : List Word) (environment : Environment) (files : LocalFiles) (terminal : Bool)
    (transport : Except Fault (Source × Sink)) : Progress :=
  match Plan.prepare words environment files terminal with
  | .error outcome => .finished outcome
  | .ok plan => plan.begin transport

/-- The settings of an invocation are found, a transport comes about and the daemon greets over
it. -/
inductive Reached (files : LocalFiles) (i : Invocation)
    (transport : Except Fault (Source × Sink)) (c : Connection) : Prop where
  | greeted {found : GivenSettings} {source : Source} {sink : Sink} {reader : Reader}
    (settings : readSettings files i.settingsFile = .ok found)
    (carried : transport = .ok (source, sink))
    (greets : Connection.greet (i.given.resolve found) source sink = (.ok c, reader)) :
    Reached files i transport c

variable {words : List Word} {environment : Environment} {files : LocalFiles} {terminal : Bool}
  {transport : Except Fault (Source × Sink)} {i : Invocation} {c c' : Connection}

/-- There is one connection at most. -/
theorem Reached.unique (first : Reached files i transport c)
    (second : Reached files i transport c') : c = c' := by
  -- The settings are read from the same files, and greeting over the same transport is a function
  -- of them.
  obtain ⟨settings, carried, greets⟩ := first
  obtain ⟨settings', carried', greets'⟩ := second
  cases settings.symm.trans settings'
  cases carried.symm.trans carried'
  cases greets.symm.trans greets'
  rfl

/-- Who is reached has greeted, and whatever else comes is behind the greeting. -/
theorem Reached.came (reached : Reached files i transport c) :
    ∃ source sink greeting, transport = .ok (source, sink) ∧
      LineFrame c.reader.encoding c.banner (Layout.bytes greeting) ∧
        Delivery.flow source.deliveries = greeting.bytes ++ c.reader.coming := by
  -- The greeting was read from the source as it stood at first.
  obtain ⟨_, carried, greets⟩ := reached
  obtain ⟨encoding, greeting, isLine, flow⟩ := Connection.greet_came greets
  exact ⟨_, _, greeting, carried, encoding ▸ isLine, flow⟩

/-- A greeting that is not waited for leaves a reader that does not wait either. -/
theorem greet_complete {settings : Settings} {source : Source} {sink : Sink} {reader : Reader}
    {result : Except ClientError Connection}
    (complete : source.ending = .closed ∨ source.ending = .silent)
    (greets : Connection.greet settings source sink = (result, reader)) : Complete reader := by
  -- A greeting is one line, and reading lines keeps what is known of the ending.
  have kept := complete_preserved.readLine (s := .ofSource source settings.encoding) complete
  rcases read : Reader.readLine (.ofSource source settings.encoding) with ⟨line, left⟩
  cases greets.symm.trans (Connection.greet_of_line sink read)
  rwa [read] at kept

/-- An invocation that is planned for has settings, and does not end the daemon without an explicit
word. -/
theorem ofInvocation_ok {coloured : Bool} {plan : Plan}
    (planned : Plan.ofInvocation files coloured i = .ok plan) :
    i.action ≠ .shutdown false ∧ ∃ found, readSettings files i.settingsFile = .ok found ∧
      plan = ⟨⟨i.json, coloured, (i.given.resolve found).encoding⟩, files, i.given.resolve found,
        i.action⟩ := by
  -- The two things that can be refused are refused one after the other.
  obtain ⟨found, settings, planned⟩ := Except.bind_eq_ok.mp planned
  split at planned
  · cases planned
  · rename_i confirmed
    cases planned
    exact ⟨confirmed, found, settings, rfl⟩

/-- An invocation that is not planned for has no settings, or would end the daemon without an
explicit word. -/
theorem ofInvocation_error {coloured : Bool} {failure : Failure}
    (refused : Plan.ofInvocation files coloured i = .error failure) :
    (∀ found, readSettings files i.settingsFile ≠ .ok found) ∨ i.action = .shutdown false := by
  -- Either the settings were missing or the explicit word was.
  rcases Except.bind_eq_error.mp refused with missing | ⟨found, _, refused⟩
  · refine .inl fun found settings => ?_
    cases missing.symm.trans settings
  · split at refused
    · rename_i unconfirmed
      exact .inr unconfirmed
    · cases refused

/-- What a command line comes to that asks for something: its action, with nothing shown before it,
or only the reason why it does not come to that. -/
inductive Begins (files : LocalFiles) (i : Invocation) (transport : Except Fault (Source × Sink)) :
    Progress → Prop where
  | acts {r : Run} {c : Connection} (reached : Reached files i transport c)
    (confirmed : i.action ≠ .shutdown false) (complete : Complete c.reader)
    (json : r.manner.json = i.json) (local_ : r.files = files) (blank : r.shown = []) :
    Begins files i transport (r.act i.action c)
  | missed {m : Manner} {failure : Failure} {sent : Bytes}
    (unmet : ∀ c, Reached files i transport c → i.action = .shutdown false) :
    Begins files i transport (.finished ⟨1, [m.failure failure], sent⟩)

/-- A plan that was made for an invocation comes to its action, or no further than the daemon. -/
theorem begin_begins {coloured : Bool} {plan : Plan}
    (planned : Plan.ofInvocation files coloured i = .ok plan)
    (complete : ∀ source sink, transport = .ok (source, sink) →
      source.ending = .closed ∨ source.ending = .silent) :
    Begins files i transport (plan.begin transport) := by
  -- From here on there are two ways to miss: no transport, or no greeting over it.
  obtain ⟨confirmed, found, settings, rfl⟩ := ofInvocation_ok planned
  unfold Plan.begin
  rcases transport with fault | ⟨source, sink⟩
  · refine .missed ?_
    rintro c ⟨_, carried, _⟩
    cases carried
  · dsimp only [Run.advance]
    rcases greets : Connection.greet (i.given.resolve found) source sink with ⟨e | c, reader⟩
    all_goals
      have kept := greet_complete (complete source sink rfl) greets
      rw [Run.greet_eq greets, Run.onward_of_complete kept]
    · refine .missed ?_
      rintro c ⟨settings', carried, greets'⟩
      cases settings.symm.trans settings'
      cases carried
      cases greets.symm.trans greets'
    · cases Connection.greet_reader greets
      exact .acts ⟨settings, rfl, greets⟩ confirmed kept rfl rfl rfl

/-- A command line that asks for something comes to its action, or shows why it does not. -/
theorem launch_begins (accepted : Invocation.parse words environment = .ok i)
    (complete : ∀ source sink, transport = .ok (source, sink) →
      source.ending = .closed ∨ source.ending = .silent) :
    Begins files i transport (launch words environment files terminal transport) := by
  unfold launch Plan.prepare
  rw [accepted]
  dsimp only
  -- The plan is made or not, and it is not made for one of two reasons.
  rcases planned : Plan.ofInvocation files (wantsColours environment terminal) i with failure | plan
  · rcases ofInvocation_error planned with missing | unconfirmed
    · refine .missed ?_
      rintro c ⟨settings, _, _⟩
      exact absurd settings (missing _)
    · exact .missed fun _ _ => unconfirmed
  · exact begin_begins planned complete

end Cli
end AmigaRemote
