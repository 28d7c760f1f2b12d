import AmigaRemote.Proofs.Text.Words
import AmigaRemote.Proofs.Wire.CommandLines

/-! Which commands are sent as the same bytes although their responses are laid out differently.
The words that a line begins with tell the layout of the response, but a command to be executed may
itself begin with a word of the protocol. -/

namespace AmigaRemote

/-- The layout of the response to a line that begins with these words. -/
def Framing.ofWords (words : List Text) : Framing :=
  let begins (verb : String) : Bool := (Text.fields ' ' verb.toList).isPrefixOf words
  -- What is started asynchronously begins like what is waited for, so it is looked for first.
  if begins "EXEC ASYNC" then .lines
  else if begins "READ" || begins "EXEC" || begins "AREXX" then .chunked
  else if begins "TAIL" || begins "TRACE START" || begins "TRACE RUN" then .stream
  else .lines

namespace Command

/-- A verb with one argument is the verb alone or the verb, a space and the argument. -/
theorem phrase_singleton (verb argument : Text) :
    phrase verb [argument] = if argument = [] then verb else verb ++ ' ' :: argument := by
  -- An argument that is empty leaves no space behind the verb.
  by_cases none : argument = []
  · simp [phrase, none]
  · simp [phrase, none]

/-- The argument of a verb can be told from the whole. -/
theorem phrase_inj {verb one other : Text} (same : phrase verb [one] = phrase verb [other]) :
    one = other := by
  simp only [phrase_singleton] at same
  -- Without an argument nothing follows the verb, and with one a space does.
  split at same
  · split at same
    · rename_i oneNone otherNone
      rw [oneNone, otherNone]
    · simp at same
  · split at same
    · simp at same
    · simpa using same

/-- A verb with arguments begins with the words of the verb. -/
theorem fields_phrase (verb : Text) (arguments : List Text) :
    verb.fields ' ' <+: (phrase verb arguments).fields ' ' := by
  unfold phrase
  -- Either no argument is left, or the first one follows a space.
  cases arguments.filter (· ≠ []) with
  | nil => simp
  | cons argument later =>
    rw [List.flatMap_cons, List.cons_append, Text.fields_append]
    exact List.prefix_append _ _

/-- The verb of a command that is no line of its own opens its first line. -/
theorem fields_verb {c : Command} (typed : ∀ line, c ≠ raw line) :
    ∃ line later, c.lines = line :: later ∧ c.verb.fields ' ' <+: line.fields ' ' := by
  cases c with
  | raw line => exact absurd rfl (typed line)
  | shutdown => exact ⟨_, _, rfl, by decide⟩
  | traceRun filters command =>
    refine ⟨_, _, rfl, (fields_phrase _ filters).trans ?_⟩
    -- The separator in front of the command begins with a space.
    rw [List.append_assoc]
    change _ <+: Text.fields ' ' (_ ++ ' ' :: ("-- ".toList ++ command))
    rw [Text.fields_append]
    exact List.prefix_append _ _
  | dir | stat | read | write | exec | execAsync | arexx | tail | traceStart | traceEnable
  | traceDisable => exact ⟨_, _, rfl, fields_phrase _ _⟩
  | version | ping | quit | rename | stop | traceStop | traceStatus =>
    exact ⟨_, _, rfl, List.prefix_refl _⟩

/-- But for a command to be executed, the words of the verb tell the layout of the response. -/
theorem framing_eq_ofWords {c : Command} (typed : ∀ line, c ≠ raw line)
    (other : ∀ command, c ≠ exec command) (more : List Text) :
    c.framing = Framing.ofWords (c.verb.fields ' ' ++ more) := by
  -- The two commands that carry a line of their own are excluded, the verbs of the others are
  -- fixed.
  cases c with
  | raw line => exact absurd rfl (typed line)
  | exec command => exact absurd rfl (other command)
  | _ => rfl

/-- The first word of a line is that of the verb. -/
theorem head?_fields {verb line : Text} (opens : verb.fields ' ' <+: line.fields ' ') :
    (line.fields ' ').head? = (verb.fields ' ').head? := by
  -- The fields of the verb stand first among those of the line.
  obtain ⟨more, same⟩ := opens
  rw [← same]
  obtain ⟨word, words, same⟩ := List.exists_cons_of_ne_nil (Text.fields_ne_nil ' ' verb)
  rw [same]
  rfl

/-- A command to be waited for whose first word is a word of the protocol has the line of one to be
started asynchronously. -/
theorem phrase_async (rest : Text) :
    phrase "EXEC".toList [phrase "ASYNC".toList [rest]] = phrase "EXEC ASYNC".toList [rest] := by
  -- With nothing behind it, the first word stands alone in both.
  by_cases none : rest = []
  · subst none
    rfl
  · simp only [phrase_singleton, none, if_false]
    rfl

/-- No other command has the line of a command to be waited for. -/
theorem eq_execAsync_of_lines_eq {command : Text} {c : Command} (typed : ∀ line, c ≠ raw line)
    (other : ∀ command, c ≠ exec command) (same : (exec command).lines = c.lines) :
    ∃ rest, c = execAsync rest ∧ command = phrase "ASYNC".toList [rest] := by
  obtain ⟨line, later, lines, opens⟩ := fields_verb typed
  rw [lines] at same
  obtain ⟨rfl, _⟩ := List.cons.inj same
  -- Both verbs open the line, so their first words are the same.
  have first : (c.verb.fields ' ').head? = some "EXEC".toList :=
    (head?_fields opens).symm.trans (head?_fields (fields_phrase "EXEC".toList [command]))
  cases c with
  | raw line => exact absurd rfl (typed line)
  | exec command => exact absurd rfl (other command)
  | execAsync rest =>
    have whole : phrase "EXEC ASYNC".toList [rest] = phrase "EXEC".toList [command] :=
      (List.cons.inj lines).1
    rw [← phrase_async rest] at whole
    exact ⟨rest, rfl, (phrase_inj whole).symm⟩
  | _ =>
    -- No other verb begins with this word.
    exact absurd first (of_decide_eq_false rfl)

/-- Commands that are sent as the same bytes are sent as the same lines. -/
theorem lines_eq_of_encode_eq {a b : Command} {encoding : Encoding} {bytes : Bytes}
    (aEncoded : a.encode encoding = .ok bytes) (bEncoded : b.encode encoding = .ok bytes) :
    a.lines = b.lines := by
  -- Lines without line feeds can be told from the bytes that they are sent as.
  obtain ⟨parts, written, rfl⟩ := encode_eq_ok.mp aEncoded
  obtain ⟨others, written', same⟩ := encode_eq_ok.mp bEncoded
  exact (linesFrame_of_mapM written).lines_eq (linesFrame_of_mapM written') same

/-- The same lines have responses of one layout, unless a command is to be waited for. -/
theorem framing_eq_of_lines_eq {a b : Command} (aTyped : ∀ line, a ≠ raw line)
    (bTyped : ∀ line, b ≠ raw line) (aOther : ∀ command, a ≠ exec command)
    (bOther : ∀ command, b ≠ exec command) (same : a.lines = b.lines) :
    a.framing = b.framing := by
  obtain ⟨line, _, aLines, more, aWords⟩ := fields_verb aTyped
  obtain ⟨line', _, bLines, more', bWords⟩ := fields_verb bTyped
  rw [aLines, bLines] at same
  obtain ⟨rfl, _⟩ := List.cons.inj same
  -- Both layouts are told by the words of one line.
  calc a.framing = Framing.ofWords (line.fields ' ') := by
        rw [framing_eq_ofWords aTyped aOther more, aWords]
    _ = b.framing := by rw [framing_eq_ofWords bTyped bOther more', bWords]

/-- Two commands that are sent as the same bytes have responses of different layouts exactly if one
is to be waited for and begins with the word that makes the other one asynchronous. -/
theorem framing_ne_iff {a b : Command} {encoding : Encoding} {bytes : Bytes}
    (aTyped : ∀ line, a ≠ raw line) (bTyped : ∀ line, b ≠ raw line)
    (aEncoded : a.encode encoding = .ok bytes) (bEncoded : b.encode encoding = .ok bytes) :
    a.framing ≠ b.framing ↔
      ∃ rest, a = exec (phrase "ASYNC".toList [rest]) ∧ b = execAsync rest ∨
        a = execAsync rest ∧ b = exec (phrase "ASYNC".toList [rest]) := by
  constructor
  · intro differ
    have same := lines_eq_of_encode_eq aEncoded bEncoded
    -- One of the two is to be waited for, and then the other one is not.
    by_cases aExec : ∃ command, a = exec command
    · obtain ⟨command, rfl⟩ := aExec
      have bOther : ∀ command, b ≠ exec command := by
        rintro command' rfl
        exact differ rfl
      obtain ⟨rest, rfl, rfl⟩ := eq_execAsync_of_lines_eq bTyped bOther same
      exact ⟨rest, .inl ⟨rfl, rfl⟩⟩
    · have aOther : ∀ command, a ≠ exec command := fun command is => aExec ⟨command, is⟩
      by_cases bExec : ∃ command, b = exec command
      · obtain ⟨command, rfl⟩ := bExec
        obtain ⟨rest, rfl, rfl⟩ := eq_execAsync_of_lines_eq aTyped aOther same.symm
        exact ⟨rest, .inr ⟨rfl, rfl⟩⟩
      · have bOther : ∀ command, b ≠ exec command := fun command is => bExec ⟨command, is⟩
        exact absurd (framing_eq_of_lines_eq aTyped bTyped aOther bOther same) differ
  · -- What is waited for comes in chunks, and what is started is answered by lines.
    rintro ⟨rest, ⟨rfl, rfl⟩ | ⟨rfl, rfl⟩⟩
    · exact nofun
    · exact nofun

/-- A wait in the background that is to be waited for is sent as the one that is started. -/
theorem framing_ne_wait :
    (exec "ASYNC wait 10".toList).encode .latin1 = (execAsync "wait 10".toList).encode .latin1 ∧
      (exec "ASYNC wait 10".toList).framing ≠ (execAsync "wait 10".toList).framing :=
  -- The general condition is applied to the line that both send.
  ⟨rfl, (@framing_ne_iff (exec "ASYNC wait 10".toList) (execAsync "wait 10".toList) .latin1
    [69, 88, 69, 67, 32, 65, 83, 89, 78, 67, 32, 119, 97, 105, 116, 32, 49, 48, 10]
    nofun nofun rfl rfl).mpr ⟨"wait 10".toList, .inl ⟨rfl, rfl⟩⟩⟩

/-- The bytes of a command do not always tell how its response is laid out. -/
theorem not_framing_eq_of_encode_eq :
    ¬∀ (a b : Command) (encoding : Encoding) (bytes : Bytes), (∀ line, a ≠ raw line) →
      (∀ line, b ≠ raw line) → a.encode encoding = .ok bytes → b.encode encoding = .ok bytes →
      a.framing = b.framing := by
  intro always
  -- The two commands send the same bytes, and their layouts differ.
  have same := always (exec "ASYNC wait 10".toList) (execAsync "wait 10".toList) .latin1
    [69, 88, 69, 67, 32, 65, 83, 89, 78, 67, 32, 119, 97, 105, 116, 32, 49, 48, 10]
    nofun nofun rfl rfl
  cases same

end Command
end AmigaRemote
