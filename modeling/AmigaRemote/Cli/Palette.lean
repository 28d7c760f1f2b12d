import AmigaRemote.Text.Basic

/-! Colours and other emphasis on a terminal. -/

namespace AmigaRemote.Cli

/-- A kind of emphasis. -/
inductive Emphasis where
  | green
  | red
  | yellow
  | cyan
  | strongBlue
  | dimmed
  deriving DecidableEq, Repr

namespace Emphasis

/-- The number of an emphasis, or its numbers with semicolons between them. -/
def code : Emphasis → Text
  | green => ['3', '2']
  | red => ['3', '1']
  | yellow => ['3', '3']
  | cyan => ['3', '6']
  | strongBlue => ['1', ';', '3', '4']
  | dimmed => ['2']

/-- What begins an emphasis. -/
def on (e : Emphasis) : Text :=
  ['\x1b', '['] ++ e.code ++ ['m']

/-- What ends every emphasis. -/
def off : Text :=
  ['\x1b', '[', '0', 'm']

/-- Text within an emphasis. Where the text itself ends it, it begins anew. -/
def resume (e : Emphasis) (text : Text) : Text :=
  go [] text
where
  /-- Goes on with what is written at hand, last character first. -/
  go (written : Text) : Text → Text
    | '\x1b' :: '[' :: '0' :: 'm' :: rest => go ((off ++ e.on).reverse ++ written) rest
    | c :: rest => go (c :: written) rest
    | [] => written.reverse

end Emphasis

/-- Text filled with spaces up to a width and emphasised, if emphasis is wanted at all. -/
def emphasise (wanted : Bool) (e : Emphasis) (width : Nat) (text : Text) : Text :=
  -- The spaces stand within the emphasis, and the text's own marks count for the width.
  if wanted then e.on ++ (e.resume text).padRight width ++ Emphasis.off else text.padRight width

end AmigaRemote.Cli
