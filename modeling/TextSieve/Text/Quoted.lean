import TextSieve.Delimiter
import TextSieve.Json.Basic

/-!
Texts in quotation marks, with everything escaped that cannot be seen on its own: marks that join
the character before them, separators other than the space, and characters without a form.
-/

namespace TextSieve

namespace Text

def quoteChar (c : Char) : Text :=
  match c with
  | '\x00' => ['\\', '0']
  | '\t' => ['\\', 't']
  | '\r' => ['\\', 'r']
  | '\n' => ['\\', 'n']
  | '\\' => ['\\', '\\']
  | '"' => ['\\', '"']
  | c =>
    if Unicode.isGraphemeExtend c || !Unicode.isPrintable c then
      ['\\', 'u', '\x7b'] ++ Nat.toDigits 16 c.toNat ++ ['\x7d']
    else [c]

def quote (t : Text) : Text :=
  ['"'] ++ t.flatMap quoteChar ++ ['"']

end Text

/-- A delimiter in writing: a literal in quotation marks, a pattern between slashes. -/
def Delimiter.display : Delimiter → Text
  | literal text => text.quote
  | pattern source => ['/'] ++ source ++ ['/']

end TextSieve
