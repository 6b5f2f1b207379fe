import TextSieve.Text

/-!
The flags of a pattern. They are set for the rest of a group by `(?flags)` and for one group by
`(?flags:`; what stands behind a `-` is switched off.
-/

namespace TextSieve.Pattern

structure Flags where
  caseless : Bool := false
  multiLine : Bool := false
  dotAll : Bool := false
  swapGreed : Bool := false
  unicode : Bool := true
  crlf : Bool := false
  /-- Blank characters and comments in the pattern stand for nothing. -/
  verbose : Bool := false
deriving DecidableEq, Repr

namespace Flags

/-- Sets the flag with the letter `c` to `on`. -/
def set? (f : Flags) (c : Char) (on : Bool) : Option Flags :=
  match c with
  | 'i' => some { f with caseless := on }
  | 'm' => some { f with multiLine := on }
  | 's' => some { f with dotAll := on }
  | 'U' => some { f with swapGreed := on }
  | 'u' => some { f with unicode := on }
  | 'R' => some { f with crlf := on }
  | 'x' => some { f with verbose := on }
  | _ => none

/-- Applies the letters between `(?` and `)` or `:`. No letter may come twice, `-` included, and a
`-` has to be followed by a letter. -/
def withLetters? (f : Flags) (on : Bool) (used : Text) : Text → Option Flags
  | [] => if used.head? = some '-' then none else some f
  | c :: rest =>
    if used.contains c then none
    else if c = '-' then withLetters? f false (c :: used) rest
    else (f.set? c on).bind fun f => withLetters? f on (c :: used) rest

/-- What follows blank characters and comments; a comment runs from `#` to the end of the line. -/
def skipBlank (inComment : Bool) : Text → Text
  | [] => []
  | c :: rest =>
    if inComment then skipBlank (c != '\n') rest
    else if Unicode.isBlank c then skipBlank false rest
    else if c = '#' then skipBlank true rest
    else c :: rest

/-- What follows the characters that stand for nothing under the flags. -/
def skip (f : Flags) (t : Text) : Text :=
  if f.verbose then skipBlank false t else t

/-- The text up to a closing brace, without the characters that stand for nothing, and the text
after the brace. -/
def braced? (f : Flags) (inComment : Bool) : Text → Option (Text × Text)
  | [] => none
  | c :: rest =>
    if inComment then braced? f (c != '\n') rest
    else if f.verbose && Unicode.isBlank c then braced? f false rest
    else if f.verbose && c == '#' then braced? f true rest
    else if c = '}' then some ([], rest)
    else (braced? f false rest).map fun (content, after) => (c :: content, after)

/-- The first `n` characters that stand for something, and the text after them. -/
def take? (f : Flags) (inComment : Bool) : Nat → Text → Option (Text × Text)
  | 0, t => some ([], t)
  | _ + 1, [] => none
  | n + 1, c :: rest =>
    if inComment then take? f (c != '\n') (n + 1) rest
    else if f.verbose && Unicode.isBlank c then take? f false (n + 1) rest
    else if f.verbose && c == '#' then take? f true (n + 1) rest
    else (take? f false n rest).map fun (content, after) => (c :: content, after)

end Flags

end TextSieve.Pattern
