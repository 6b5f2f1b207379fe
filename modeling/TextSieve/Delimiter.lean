import TextSieve.Error
import TextSieve.Pattern.Reader

/-!
Word delimiters: literal texts or patterns. The delimiters of a list are joined into one fragment of
a pattern, which stands for any one of them.
-/

namespace TextSieve

inductive Delimiter
  | literal (text : Text)
  | pattern (source : Text)
deriving DecidableEq, Repr

namespace Delimiter

/-- The delimiter that is used where none is given. -/
def space : Delimiter := literal [' ']

/-- A pattern delimiter, refused unless it is a pattern. -/
def ofPattern (source : Text) : Except Error Delimiter :=
  if Pattern.isPattern source then .ok (pattern source)
  else .error (.pattern (.delimiter source))

/-- The delimiter as a branch of the fragment. -/
def branch : Delimiter → Except Error Text
  | literal text =>
    if text = [] then .error (.options .emptyLiteral) else .ok (Pattern.escape text)
  | pattern source =>
    if source = [] then .error (.options .emptyPattern)
    else if Pattern.isPattern source then .ok source
    else .error (.pattern (.delimiter source))

/-- Branches joined into one group that captures nothing. -/
def choice (branches : List Text) : Text :=
  ['(', '?', ':'] ++ Text.join ['|'] branches ++ [')']

/-- The fragment for any one of the delimiters; the first one at fault gives the error. -/
def fragment (delimiters : List Delimiter) : Except Error Text :=
  if delimiters = [] then .error (.options .noDelimiter)
  else (delimiters.mapM branch).map choice

end Delimiter

end TextSieve
