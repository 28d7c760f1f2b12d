import AmigaRemote.Text.Basic

/-! White space, and the words between it. -/

namespace AmigaRemote

/-- The code points with the Unicode property White_Space. -/
def isSpace (c : Char) : Bool :=
  -- The controls and the plain space come first, then the spaces of other scripts.
  let n := c.toNat
  (9 ≤ n && n ≤ 13) || n == 0x20 || n == 0x85 || n == 0xA0 || n == 0x1680
    || (0x2000 ≤ n && n ≤ 0x200A) || n == 0x2028 || n == 0x2029 || n == 0x202F || n == 0x205F
    || n == 0x3000

namespace Text

/-- The text without white space at its ends. -/
def trim (text : Text) : Text :=
  trimEndOf isSpace (text.dropWhile isSpace)

/-- The longest stretches without white space. -/
def words (text : Text) : List Text :=
  -- Every character of white space is a cut, and cuts in a row leave nothing between them.
  (text.foldr
    (fun c parts =>
      if isSpace c then [] :: parts
      else match parts with
        | [] => [[c]]
        | part :: rest => (c :: part) :: rest)
    [[]]).filter (· ≠ [])

end Text

end AmigaRemote
