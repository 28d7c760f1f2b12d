/-! Texts and byte strings as lists, and the ways of cutting a text that the protocol uses. -/

namespace AmigaRemote

/-- A text is the list of its characters. -/
abbrev Text := List Char

/-- What travels on the wire and what files hold. -/
abbrev Bytes := List UInt8

namespace Text

/-- What follows `lead`, if the text begins with it. -/
def after? (text lead : Text) : Option Text :=
  lead.isPrefixOf? text

/-- The parts before and after the first `sep`. -/
def splitFirst? (sep : Char) (text : Text) : Option (Text × Text) :=
  -- The separator itself belongs to neither part.
  match text.span (· ≠ sep) with
  | (before, _ :: rest) => some (before, rest)
  | (_, []) => none

/-- The parts between all occurrences of `sep`: one more than there are occurrences. -/
def fields (sep : Char) (text : Text) : List Text :=
  -- Read from the right, every character extends the first part or opens a new one.
  text.foldr
    (fun c parts =>
      if c = sep then [] :: parts
      else match parts with
        | [] => [[c]]
        | part :: rest => (c :: part) :: rest)
    [[]]

/-- The part after the last `sep`, the whole text if there is none. -/
def afterLast (sep : Char → Bool) (text : Text) : Text :=
  -- Read from the right, the part ends at the first separator.
  (text.reverse.takeWhile fun c => !sep c).reverse

/-- The text without the characters of a class at its end. -/
def trimEndOf (drops : Char → Bool) (text : Text) : Text :=
  -- Only the end is looked at. The same characters elsewhere stay.
  (text.reverse.dropWhile drops).reverse

/-- Parts put together with `sep` between neighbours. -/
def join (sep : Text) (parts : List Text) : Text :=
  sep.intercalate parts

/-- The text filled with spaces on the right up to `width` characters. -/
def padRight (width : Nat) (text : Text) : Text :=
  -- A text that is wide enough has no spaces missing.
  text ++ List.replicate (width - text.length) ' '

/-- The text filled with spaces on the left up to `width` characters. -/
def padLeft (width : Nat) (text : Text) : Text :=
  List.replicate (width - text.length) ' ' ++ text

end Text

/-- The list cut into runs of `size` elements, the last one possibly shorter. -/
def chunksOf {α : Type} (size : Nat) (positive : 0 < size) (items : List α) : List (List α) :=
  go [] items
where
  /-- Cuts what is left, with the runs already cut at hand, last one first. -/
  go (runs : List (List α)) (items : List α) : List (List α) :=
    -- A run is cut only where more follows it, so no empty run comes last.
    match later : items.drop size with
    | [] => (if items.isEmpty then runs else items :: runs).reverse
    | next :: rest =>
      -- What is left after a run is shorter than before it.
      have shorter : (next :: rest).length < items.length := by
        have left : (next :: rest).length = items.length - size := by
          rw [← later, List.length_drop]
        rw [List.length_cons] at left ⊢
        omega
      go (items.take size :: runs) (next :: rest)
  termination_by items.length

/-- What is left behind a run is shorter than before it. -/
theorem length_lt_of_drop_eq_cons {α : Type} {size : Nat} (positive : 0 < size)
    {items rest : List α} {next : α} (later : items.drop size = next :: rest) :
    (next :: rest).length < items.length := by
  -- Something was dropped, since the size is positive and something is left.
  have left : (next :: rest).length = items.length - size := by
    rw [← later, List.length_drop]
  rw [List.length_cons] at left ⊢
  omega

/-- Cutting loses nothing and changes no order. -/
@[simp] theorem flatten_chunksOf {α : Type} {size : Nat} {positive : 0 < size} {items : List α} :
    (chunksOf size positive items).flatten = items := by
  -- The runs cut so far stand before what is left.
  suffices whole : ∀ runs : List (List α),
      (chunksOf.go size positive runs items).flatten = runs.reverse.flatten ++ items from
    whole []
  induction items using (measure (List.length (α := α))).wf.induction with
  | _ items ih =>
    intro runs
    unfold chunksOf.go
    split
    · split
      · rename_i none
        rw [List.isEmpty_iff.mp none, List.append_nil]
      · simp
    · rename_i next rest later
      -- What is cut off and what is left behind it are what there was.
      rw [ih (next :: rest) (length_lt_of_drop_eq_cons positive later), ← later,
        List.reverse_cons, List.flatten_concat, List.append_assoc, List.take_append_drop]

/-- What fits the size is one run. -/
theorem chunksOf_of_length_le {α : Type} {size : Nat} {positive : 0 < size} {items : List α}
    (some : items ≠ []) (few : items.length ≤ size) : chunksOf size positive items = [items] := by
  -- Behind the first run there is nothing, so that no second one is cut.
  unfold chunksOf chunksOf.go
  split
  · simp [some]
  · rename_i later
    rw [List.drop_eq_nil_of_le few] at later
    cases later

/-- Cutting keeps every run within the size. -/
theorem length_le_of_mem_chunksOf {α : Type} {size : Nat} {positive : 0 < size}
    {items run : List α} (member : run ∈ chunksOf size positive items) : run.length ≤ size := by
  -- The runs cut so far fit, and the induction adds one more that fits.
  suffices fits : ∀ (runs : List (List α)), (∀ r ∈ runs, r.length ≤ size) →
      ∀ r ∈ chunksOf.go size positive runs items, r.length ≤ size from
    fits [] (by simp) run member
  clear member
  induction items using (measure (List.length (α := α))).wf.induction with
  | _ items ih =>
    intro runs fits r member
    unfold chunksOf.go at member
    split at member
    · rename_i later
      -- The last run is what remains once nothing lies beyond its size.
      have short : items.length ≤ size := by
        have := congrArg List.length later
        simp only [List.length_drop, List.length_nil] at this
        omega
      split at member
      · exact fits r (List.mem_reverse.mp member)
      · rcases List.mem_cons.mp (List.mem_reverse.mp member) with same | old
        · exact same ▸ short
        · exact fits r old
    · rename_i next rest later
      have shorter := length_lt_of_drop_eq_cons positive later
      refine ih (next :: rest) shorter (items.take size :: runs) ?_ r member
      intro old oldMember
      rcases List.mem_cons.mp oldMember with same | old
      · exact same ▸ List.length_take_le _ _
      · exact fits _ old

/-- Cutting makes no empty run. -/
theorem ne_nil_of_mem_chunksOf {α : Type} {size : Nat} {positive : 0 < size}
    {items run : List α} (member : run ∈ chunksOf size positive items) : run ≠ [] := by
  suffices some : ∀ (runs : List (List α)), (∀ r ∈ runs, r ≠ []) →
      ∀ r ∈ chunksOf.go size positive runs items, r ≠ [] from
    some [] (by simp) run member
  clear member
  induction items using (measure (List.length (α := α))).wf.induction with
  | _ items ih =>
    intro runs some r member
    unfold chunksOf.go at member
    split at member
    · split at member
      · exact some r (List.mem_reverse.mp member)
      · rename_i left
        -- The last run is cut only if something is left for it.
        rcases List.mem_cons.mp (List.mem_reverse.mp member) with rfl | old
        · simpa using left
        · exact some r old
    · rename_i next rest later
      have shorter := length_lt_of_drop_eq_cons positive later
      refine ih (next :: rest) shorter (items.take size :: runs) ?_ r member
      intro old oldMember
      rcases List.mem_cons.mp oldMember with rfl | old
      · -- Where more follows a run, the run is full.
        intro none
        rcases List.take_eq_nil_iff.mp none with zero | empty
        · omega
        · rw [empty, List.drop_nil] at later
          cases later
      · exact some _ old

end AmigaRemote
