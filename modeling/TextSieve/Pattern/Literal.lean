import TextSieve.Text

/-! Literal text inside a pattern: every character with a meaning of its own gets a backslash. -/

namespace TextSieve.Pattern

/-- The characters that mean something in a pattern. -/
def isMeta (c : Char) : Bool :=
  ['\\', '.', '+', '*', '?', '(', ')', '|', '[', ']', '\x7b', '\x7d', '^', '$', '#', '&', '-',
    '~'].contains c

def escapeChar (c : Char) : Text :=
  if isMeta c then ['\\', c] else [c]

/-- A pattern that matches exactly the given text. -/
def escape (t : Text) : Text :=
  t.flatMap escapeChar

@[simp] theorem escape_nil : escape [] = [] := rfl

@[simp] theorem escape_cons (c : Char) (t : Text) : escape (c :: t) = escapeChar c ++ escape t := rfl

@[simp] theorem escape_append (s t : Text) : escape (s ++ t) = escape s ++ escape t := by
  simp [escape]

end TextSieve.Pattern
