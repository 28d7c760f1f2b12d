import AmigaRemote.Text.Basic
import AmigaRemote.Text.CaseTable

/-! Small letters of a text, and comparison with words of plain letters regardless of case. -/

namespace AmigaRemote

/-- Whether a code point lies in one of the ascending closed ranges. -/
def inRanges : List (Nat × Nat) → Nat → Bool
  | [], _ => false
  | (first, last) :: rest, n => if n < first then false else n ≤ last || inRanges rest n

/-- The distance from a capital to its small letter, nothing for other code points. -/
def smallLetterDistance : List (Nat × Nat × Nat × Int) → Nat → Int
  | [], _ => 0
  | (first, last, step, distance) :: rest, n =>
    -- Runs ascend, so none of those that follow begins before this one.
    if n < first then 0
    else if n ≤ last ∧ (n - first) % step = 0 then distance
    else smallLetterDistance rest n

namespace Text

/-- The small form of a character on its own. -/
def smallLetters (c : Char) : Text :=
  -- The dotted capital I is the only one whose small form is two characters.
  if c = '\u0130' then ['i', '\u0307']
  else [Char.ofNat ((c.toNat : Int) + smallLetterDistance smallLetterRuns c.toNat).toNat]

/-- Whether the first character that counts for case is a letter with case. -/
def meetsCased (text : Text) : Bool :=
  match text.dropWhile fun c => inRanges caseIgnorableRanges c.toNat with
  | [] => false
  | c :: _ => inRanges casedRanges c.toNat

/-- The text in small letters. A capital sigma that ends a word becomes a final sigma. -/
def toSmall (text : Text) : Text :=
  go [] [] text
where
  /-- Goes on with the characters passed and the small letters written, last ones first. -/
  go (passed written : Text) : Text → Text
    | [] => written.reverse
    | c :: rest =>
      -- A sigma is final if letters stand before it and none behind it.
      let letters :=
        if c = 'Σ' then
          if meetsCased passed ∧ ¬ meetsCased rest then ['ς'] else ['σ']
        else smallLetters c
      go (c :: passed) (letters.reverse ++ written) rest

/-- The plain capital letters a character becomes, if it becomes such letters. -/
def plainCapitals? (c : Char) : Option Text :=
  -- What is no letter stays as it is and differs from every letter.
  if c.toNat < 0x80 then some [c.toUpper]
  else match c with
    -- Beyond the plain letters themselves, ligatures and three old letters have plain capitals.
    | 'ß' => some ['S', 'S']
    | 'ı' => some ['I']
    | 'ſ' => some ['S']
    | 'ﬀ' => some ['F', 'F']
    | 'ﬁ' => some ['F', 'I']
    | 'ﬂ' => some ['F', 'L']
    | 'ﬃ' => some ['F', 'F', 'I']
    | 'ﬄ' => some ['F', 'F', 'L']
    | 'ﬅ' => some ['S', 'T']
    | 'ﬆ' => some ['S', 'T']
    | _ => none

/-- Whether the text in capitals is the given word of plain capital letters. -/
def isInCapitals (word text : Text) : Bool :=
  match text.mapM plainCapitals? with
  | some capitals => capitals.flatten == word
  | none => false

end Text

end AmigaRemote
