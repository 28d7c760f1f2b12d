import AmigaRemote.Proofs.Wire.Promptness

/-! Blocks of data one behind the other, and what ends them. A frame that was read has come before
any failure, so where none comes none is read. -/

namespace AmigaRemote

/-- Blocks of data, one behind the other. -/
inductive BlocksLayout (encoding : Encoding) : List Bytes → Layout → Prop where
  | nothing : BlocksLayout encoding [] []
  | block {body : Bytes} {blocks : List Bytes} {first rest : Layout}
    (head : ChunkLayout encoding (.data body) first) (tail : BlocksLayout encoding blocks rest) :
    BlocksLayout encoding (body :: blocks) (first ++ rest)

/-- What ends a transfer: the end, or the error that takes its place. -/
def Chunk.ofEnd : Option DaemonError → Chunk
  | none => .ended
  | some e => .aborted e

/-- Every step of a transfer is a block or ends it. -/
theorem Chunk.block_or_end (chunk : Chunk) :
    (∃ body, chunk = .data body) ∨ ∃ why, chunk = .ofEnd why := by
  -- The end without an error and that with one are the two ends.
  cases chunk with
  | data body => exact .inl ⟨body, rfl⟩
  | ended => exact .inr ⟨none, rfl⟩
  | aborted e => exact .inr ⟨some e, rfl⟩

/-- No end of a transfer is a block. -/
theorem Chunk.ofEnd_ne_data (why : Option DaemonError) (body : Bytes) : ofEnd why ≠ .data body := by
  -- An end is one of the other two steps.
  cases why <;> nofun

/-- What ends a transfer says why. -/
theorem Chunk.ofEnd_injective {why why' : Option DaemonError} (same : ofEnd why = ofEnd why') :
    why = why' := by
  -- Each of the two ends is made of one reason.
  cases why <;> cases why' <;> cases same <;> rfl

/-- Blocks and what ends them are a transfer. -/
theorem BlocksLayout.transfer {encoding : Encoding} {blocks : List Bytes} {front last : Layout}
    {why : Option DaemonError} (isBlocks : BlocksLayout encoding blocks front)
    (isLast : ChunkLayout encoding (.ofEnd why) last) :
    TransferLayout encoding blocks why (front ++ last) := by
  -- The last step stands behind all blocks, which come in front of it one by one.
  induction isBlocks with
  | nothing =>
    cases why with
    | none => exact .ended isLast
    | some e => exact .aborted isLast
  | block head _ ih =>
    rw [List.append_assoc]
    exact .chunk head ih

/-- There is one way to lay bytes out as blocks and what ends them. -/
theorem BlocksLayout.unique {encoding : Encoding} {blocks blocks' : List Bytes}
    {front front' last last' : Layout} {why why' : Option DaemonError} {rest rest' : Bytes}
    (isBlocks : BlocksLayout encoding blocks front)
    (isLast : ChunkLayout encoding (.ofEnd why) last)
    (isBlocks' : BlocksLayout encoding blocks' front')
    (isLast' : ChunkLayout encoding (.ofEnd why') last')
    (same : front.bytes ++ (last.bytes ++ rest) = front'.bytes ++ (last'.bytes ++ rest')) :
    blocks = blocks' ∧ why = why' ∧ front.bytes = front'.bytes ∧ last.bytes = last'.bytes := by
  -- Both begin with the same step, which is a block for both or ends both.
  induction isBlocks generalizing blocks' front' with
  | nothing =>
    cases isBlocks' with
    | nothing =>
      obtain ⟨ends, bytes⟩ := isLast.asks.unique isLast'.asks same
      exact ⟨rfl, Chunk.ofEnd_injective ends, rfl, bytes⟩
    | block head' _ =>
      rw [Layout.bytes_append, List.append_assoc] at same
      exact absurd (isLast.asks.unique head'.asks same).1 (Chunk.ofEnd_ne_data _ _)
  | block head _ ih =>
    rw [Layout.bytes_append, List.append_assoc] at same
    cases isBlocks' with
    | nothing =>
      exact absurd (head.asks.unique isLast'.asks same).1.symm (Chunk.ofEnd_ne_data _ _)
    | block head' tail' =>
      rw [Layout.bytes_append, List.append_assoc] at same
      obtain ⟨sameBlock, bytes⟩ := head.asks.unique head'.asks same
      cases sameBlock
      rw [bytes, List.append_cancel_left_eq] at same
      obtain ⟨rfl, rfl, bytes', ends⟩ := ih tail' same
      exact ⟨rfl, rfl, by rw [Layout.bytes_append, Layout.bytes_append, bytes, bytes'], ends⟩

/-- A line that was waited for came before any failure. -/
theorem awaitLine_came {ending : Ending} {seen line rest : Bytes} {count : Nat}
    {deliveries : List Delivery} {source : Source}
    (found : awaitLine ending seen count deliveries = .complete line rest source) :
    seen.reverse ++ Delivery.flow deliveries
      = line ++ Line.feed :: (rest ++ Delivery.flow source.deliveries) := by
  -- Nothing but an interruption lets the wait go on, so what it takes comes.
  induction deliveries generalizing seen count with
  | nil => cases found
  | cons delivery later ih =>
    cases delivery with
    | fault fault =>
      simp only [awaitLine] at found
      split at found
      · rename_i interrupted
        simpa only [Delivery.flow, interrupted, if_true] using ih found
      · cases found
    | bytes piece fits =>
      cases piece with
      | nil => cases found
      | cons b bs =>
        simp only [awaitLine] at found
        split at found
        · rename_i cut
          cases found
          simp [Delivery.flow, cutLine?_eq_some cut]
        · split at found
          · cases found
          · simpa [Delivery.flow] using ih found

/-- Bytes that were waited for came before any failure. -/
theorem awaitExact_came {ending : Ending} {seen bytes rest : Bytes} {missing : Nat}
    {deliveries : List Delivery} {source : Source}
    (found : awaitExact ending seen missing deliveries = .complete bytes rest source) :
    seen.reverse ++ Delivery.flow deliveries
      = bytes ++ (rest ++ Delivery.flow source.deliveries) := by
  induction deliveries generalizing seen missing with
  | nil => cases found
  | cons delivery later ih =>
    cases delivery with
    | fault fault =>
      simp only [awaitExact] at found
      split at found
      · rename_i interrupted
        simpa only [Delivery.flow, interrupted, if_true] using ih found
      · cases found
    | bytes piece fits =>
      cases piece with
      | nil => cases found
      | cons b bs =>
        simp only [awaitExact] at found
        split at found
        · -- The last piece is split where enough has come.
          cases found
          simp only [Delivery.flow, List.append_assoc, ← List.append_assoc (List.take _ _),
            List.take_append_drop]
        · simpa [Delivery.flow] using ih found

namespace Reader

variable {r after : Reader}

/-- The bytes of a line that was read came before any failure. -/
theorem readLineBytes_came {said : Bytes} (read : readLineBytes r = (.ok said, after)) :
    ∃ raw, Line.feed ∉ raw ∧ r.coming = raw ++ Line.feed :: after.coming := by
  -- The line was cut from the buffer, or it was waited for.
  simp only [readLineBytes] at read
  split at read
  · rename_i whole rest cut
    cases read
    exact ⟨whole, cutLine?_free cut, by simp [coming, resume, cutLine?_eq_some cut]⟩
  · rename_i uncut
    split at read
    · cases read
    · split at read
      · rename_i whole rest source found
        cases read
        refine ⟨whole, awaitLine_free (by simpa using cutLine?_eq_none_iff.mp uncut) found, ?_⟩
        simpa [coming, resume] using awaitLine_came found
      all_goals cases read

/-- Counted bytes that were read came before any failure. -/
theorem readExact_came {length : Nat} {bytes : Bytes}
    (read : readExact length r = (.ok bytes, after)) : r.coming = bytes ++ after.coming := by
  -- The bytes were at hand, or they were waited for.
  simp only [readExact] at read
  split at read
  · cases read
  · split at read
    · cases read
      simp only [coming, resume, ← List.append_assoc, List.take_append_drop]
    · split at read
      · rename_i found
        cases read
        simpa [coming, resume] using awaitExact_came found
      all_goals cases read

end Reader

/-- A layout at the front of what is unread was taken, and had come before any failure. -/
structure Reader.Took (r : Reader) (layout : Layout) (after : Reader) : Prop where
  coming : r.coming = layout.bytes ++ after.coming
  unread : r.unread = layout.bytes ++ after.unread
  encoding : after.encoding = r.encoding

/-- Where nothing is read nothing is taken. -/
theorem Reader.Took.refl (r : Reader) : r.Took [] r :=
  -- Nothing is in front of what was there.
  ⟨rfl, rfl, rfl⟩

/-- What was taken in two steps lies one behind the other. -/
theorem Reader.Took.trans {r middle after : Reader} {front back : Layout}
    (first : r.Took front middle) (second : middle.Took back after) :
    r.Took (front ++ back) after := by
  -- The stretches are put one behind the other, of what is coming and of what is unread.
  refine ⟨?_, ?_, second.encoding.trans first.encoding⟩
  · rw [first.coming, second.coming, Layout.bytes_append, List.append_assoc]
  · rw [first.unread, second.unread, Layout.bytes_append, List.append_assoc]

namespace Asks

variable {encoding : Encoding} {α : Type} {x : Reading α} {layout : Layout} {a b : α}
  {r after : Reader}

/-- Whoever finds a layout in front of what is unread and succeeds has read it as what it is. -/
theorem took (asks : Asks encoding x layout a) (kept : r.encoding = encoding)
    (front : layout.bytes <+: r.unread) (read : x r = (.ok b, after)) :
    b = a ∧ r.Took layout after := by
  induction asks generalizing r after with
  | @line raw free =>
    obtain ⟨more, front⟩ := front
    rw [Layout.bytes_singleton, Stretch.bytes, List.append_assoc, List.singleton_append] at front
    obtain ⟨raw', free', same, unread⟩ := Reader.readLineBytes_ok read
    obtain ⟨raw'', free'', comes⟩ := Reader.readLineBytes_came read
    have encoding := Reader.readLineBytes_encoding r
    rw [read] at encoding
    -- There is one first line only, whether more of it is looked at or less.
    obtain ⟨rfl, _⟩ := split_of_free free free' (front.trans unread)
    obtain ⟨later, whole⟩ := r.coming_prefix
    rw [comes, List.append_assoc, List.cons_append, unread] at whole
    obtain ⟨rfl, _⟩ := split_of_free free'' free whole
    refine ⟨same.symm, ?_, ?_, encoding⟩
    · simp [comes, Layout.bytes_singleton, Stretch.bytes]
    · simp [unread, Layout.bytes_singleton, Stretch.bytes]
  | @counted bytes small =>
    obtain ⟨more, front⟩ := front
    rw [Layout.bytes_singleton, Stretch.bytes] at front
    have encoding := Reader.readExact_encoding r bytes.length
    rw [read] at encoding
    have unread := Reader.readExact_ok read
    -- As many bytes from the same front are the same bytes.
    obtain ⟨rfl, _⟩ := List.append_inj (front.trans unread) (Reader.readExact_length read).symm
    refine ⟨rfl, ?_, ?_, encoding⟩
    · rw [Layout.bytes_singleton, Stretch.bytes, Reader.readExact_came read]
    · rw [Layout.bytes_singleton, Stretch.bytes, unread]
  | decode said =>
    cases read
    exact ⟨by rw [kept], .refl r⟩
  | pure a =>
    cases read
    exact ⟨rfl, .refl r⟩
  | bind first second ihFirst ihSecond =>
    obtain ⟨a', middle, read, read'⟩ := Step.bind_eq_ok.mp read
    rw [Layout.bytes_append] at front
    obtain ⟨rfl, took⟩ := ihFirst kept ((List.prefix_append _ _).trans front) read
    -- What is behind the front layout is what the second reading finds.
    have behind := took.unread ▸ front
    rw [List.prefix_append_right_inj] at behind
    obtain ⟨rfl, took'⟩ := ihSecond (took.encoding.trans kept) behind read'
    exact ⟨rfl, took.trans took'⟩

end Asks

namespace Reader

variable {r after : Reader}

/-- A line that was read had come whole. -/
theorem readLine_took {text : Text} (read : readLine r = (.ok text, after)) :
    ∃ layout, LineFrame r.encoding text layout.bytes ∧ r.Took layout after := by
  -- What the line has lost is known already; that it came at all is what its request says.
  obtain ⟨raw, free, same, unread, _⟩ := readLine_ok read
  refine ⟨[.line raw], ⟨raw, free, same, Layout.bytes_singleton _⟩, ?_⟩
  refine ((Asks.text free).took rfl ⟨after.unread, ?_⟩ read).2
  rw [unread, Layout.bytes_singleton, Stretch.bytes, List.append_assoc, List.singleton_append]

/-- A status line that was read had come whole. -/
theorem readStatus_took {parts : Status × Text} (read : readStatus r = (.ok parts, after)) :
    ∃ layout, StatusLayout r.encoding parts layout ∧ r.Took layout after := by
  -- What was taken is a frame, and the layout of the frame is what came.
  obtain ⟨_, isFrame, unread, _⟩ := readStatus_takes read
  obtain ⟨layout, isStatus, rfl⟩ := isFrame.laid
  exact ⟨layout, isStatus, (isStatus.asks.took rfl ⟨_, unread.symm⟩ read).2⟩

/-- A step of a transfer that was read had come as it is laid out. -/
theorem readChunk_took {chunk : Chunk} (read : readChunk r = (.ok chunk, after)) :
    ∃ layout, ChunkLayout r.encoding chunk layout ∧ r.Took layout after := by
  -- As for a status line.
  obtain ⟨_, ⟨layout, isChunk, rfl⟩, unread, _⟩ := readChunk_lays read
  exact ⟨layout, isChunk, (isChunk.asks.took rfl ⟨_, unread.symm⟩ read).2⟩

/-- A response that was read had come as it is laid out. -/
theorem readResponse_took {response : Response} (read : readResponse r = (.ok response, after)) :
    ∃ layout, ResponseLayout r.encoding response layout ∧ r.Took layout after := by
  -- As for a status line, with the payload behind it.
  obtain ⟨_, isFrame, unread, _⟩ := readResponse_takes read
  obtain ⟨layout, isResponse, rfl⟩ := isFrame.laid
  exact ⟨layout, isResponse, (isResponse.asks.took rfl ⟨_, unread.symm⟩ read).2⟩

/-- A step of a transfer that comes within the limit is read. -/
theorem readChunk_of_coming {chunk : Chunk} {layout : Layout} {rest : Bytes}
    (isChunk : ChunkLayout r.encoding chunk layout) (short : layout.Short)
    (comes : r.coming = layout.bytes ++ rest) :
    ∃ after, readChunk r = (.ok chunk, after) ∧ after.coming = rest ∧ r.Took layout after ∧
      r.ReadsFor layout.bytes after := by
  -- What comes is asked for and comes whole, so that it is read without waiting any longer.
  obtain ⟨after, read, behind, unread, kept, reads⟩ := isChunk.asks.prompt short rfl comes
  exact ⟨after, read, behind, ⟨by rw [behind, comes], unread, kept⟩, reads⟩

/-- Blocks that are read one after the other. -/
inductive ReadsBlocks : Reader → List Bytes → Reader → Prop where
  | nothing (r : Reader) : ReadsBlocks r [] r
  | block {r middle after : Reader} {body : Bytes} {blocks : List Bytes}
    (read : readChunk r = (.ok (.data body), middle)) (later : ReadsBlocks middle blocks after) :
    ReadsBlocks r (body :: blocks) after

namespace ReadsBlocks

variable {r middle middle' after : Reader} {body : Bytes} {blocks blocks' : List Bytes}

/-- One more block is read behind the others. -/
theorem snoc (front : ReadsBlocks r blocks middle)
    (read : readChunk middle = (.ok (.data body), after)) :
    ReadsBlocks r (blocks ++ [body]) after := by
  -- By induction on the blocks that were read first.
  induction front with
  | nothing r => exact .block read (.nothing after)
  | block first _ ih => exact .block first (ih read)

/-- There is one way to read blocks up to where no further block is read. -/
theorem unique (first : ReadsBlocks r blocks middle) (second : ReadsBlocks r blocks' middle')
    (last : ∀ body, (readChunk middle).1 ≠ .ok (.data body))
    (last' : ∀ body, (readChunk middle').1 ≠ .ok (.data body)) :
    blocks = blocks' ∧ middle = middle' := by
  -- Both read the same first block, or neither of them reads one.
  induction first generalizing blocks' with
  | nothing r =>
    cases second with
    | nothing => exact ⟨rfl, rfl⟩
    | block read' _ => exact absurd (congrArg Prod.fst read') (last _)
  | block read _ ih =>
    cases second with
    | nothing => exact absurd (congrArg Prod.fst read) (last' _)
    | block read' later' =>
      rw [read] at read'
      cases read'
      obtain ⟨rfl, rfl⟩ := ih later' last
      exact ⟨rfl, rfl⟩

/-- Blocks that were read had come as they are laid out. -/
theorem took (front : ReadsBlocks r blocks after) :
    ∃ layout, BlocksLayout r.encoding blocks layout ∧ r.Took layout after := by
  -- By induction on the blocks, the layout of each behind those before.
  induction front with
  | nothing r => exact ⟨[], .nothing, .refl r⟩
  | block read _ ih =>
    obtain ⟨first, isBlock, took⟩ := readChunk_took read
    obtain ⟨others, isBlocks, took'⟩ := ih
    rw [took.encoding] at isBlocks
    exact ⟨first ++ others, .block isBlock isBlocks, took.trans took'⟩

end ReadsBlocks

/-- Blocks that come within the limit are read, and nothing beyond them. -/
theorem readsBlocks_of_coming {encoding : Encoding} {blocks : List Bytes} {front : Layout}
    {rest : Bytes} (isBlocks : BlocksLayout encoding blocks front) (short : front.Short)
    (kept : r.encoding = encoding) (comes : r.coming = front.bytes ++ rest) :
    ∃ after, r.ReadsBlocks blocks after ∧ after.coming = rest ∧ r.Took front after ∧
      r.ReadsFor front.bytes after := by
  -- By induction on the layout, each block being read from what the one before it left.
  induction isBlocks generalizing r with
  | nothing => exact ⟨r, .nothing r, comes, .refl r, readsFor_of_source_eq rfl⟩
  | @block body blocks first others head tail ih =>
    subst kept
    obtain ⟨shortHead, shortTail⟩ := Layout.short_append.mp short
    rw [Layout.bytes_append, List.append_assoc] at comes
    obtain ⟨middle, read, behind, took, reads⟩ := readChunk_of_coming head shortHead comes
    obtain ⟨after, later, done, took', reads'⟩ := ih shortTail took.encoding behind
    rw [Layout.bytes_append]
    exact ⟨after, .block read later, done, took.trans took', reads.trans reads' took.unread⟩

end Reader
end AmigaRemote
