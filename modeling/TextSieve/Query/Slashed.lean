import TextSieve.Text

/-!
Pattern literals between slashes. Inside, a slash is written with a backslash in front; any other
backslash stands for itself, so a text that ends in a backslash has no written form.
-/

namespace TextSieve.Slashed

/-- The text with a backslash before each slash. -/
def encode (t : Text) : Text :=
  Text.replaceChar '/' ['\\', '/'] t

/-- The text in writing, slashes around it included. -/
def write (t : Text) : Text :=
  ['/'] ++ encode t ++ ['/']

/-- Scans on from byte `i` behind the opening slash: the text up to the closing slash, and the length
in bytes of the literal. Both slashes belong to it. -/
def scanFrom? (i : Nat) : Text → Option (Text × Nat)
  | [] => none
  | '\\' :: '/' :: rest => (scanFrom? (i + 2) rest).map fun (t, n) => ('/' :: t, n)
  | c :: rest =>
    if c = '/' then some ([], i + 2)
    else (scanFrom? (i + c.utf8Size) rest).map fun (t, n) => (c :: t, n)

/-- The text of the literal that the given text starts with, and the length in bytes of the
literal. -/
def scan? : Text → Option (Text × Nat)
  | '/' :: rest => scanFrom? 0 rest
  | _ => none

@[simp] theorem encode_nil : encode [] = [] := rfl

theorem encode_cons (c : Char) (t : Text) :
    encode (c :: t) = (if c = '/' then ['\\', '/'] else [c]) ++ encode t := rfl

end TextSieve.Slashed
