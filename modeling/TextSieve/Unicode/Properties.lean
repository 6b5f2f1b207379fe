import TextSieve.Unicode.Category
import TextSieve.Unicode.Derived

/-!
Properties of characters that the rest of the library asks for: blank, word, digit, alphabetic,
printable, cased. ASCII is answered without a table.
-/

namespace TextSieve.Unicode

/-- White space: the characters that separate the words of a query and of a verbose pattern. -/
def isBlank (c : Char) : Bool :=
  let n := c.toNat
  (0x9 ≤ n && n ≤ 0xD) || n == 0x20 || n == 0x85 || n == 0xA0 || n == 0x1680 ||
    (0x2000 ≤ n && n ≤ 0x200A) || n == 0x2028 || n == 0x2029 || n == 0x202F || n == 0x205F ||
    n == 0x3000

theorem isBlank_of_isWhitespace (c : Char) (h : c.isWhitespace = true) : isBlank c = true := by
  simp only [Char.isWhitespace, Bool.or_eq_true, decide_eq_true_eq] at h
  rcases h with ((h | h) | h) | h <;> subst h <;> decide

def isDigit (c : Char) : Bool :=
  if c.toNat < 0x80 then c.isDigit else Category.decimalNumber.has c

def isUppercase (c : Char) : Bool :=
  if c.toNat < 0x80 then c.isUpper
  else Category.uppercaseLetter.has c || Tables.otherUppercase.contains c.toNat

def isLowercase (c : Char) : Bool :=
  if c.toNat < 0x80 then c.isLower
  else Category.lowercaseLetter.has c || Tables.otherLowercase.contains c.toNat

def isAlphabetic (c : Char) : Bool :=
  if c.toNat < 0x80 then c.isAlpha
  else Category.letters.any (·.has c) || Category.letterNumber.has c ||
    Tables.otherAlphabetic.contains c.toNat

def isAlphanumeric (c : Char) : Bool :=
  if c.toNat < 0x80 then c.isAlphanum
  else isAlphabetic c || Category.numbers.any (·.has c)

/-- Letters, marks, digits, connectors such as `_`, and the two invisible joiners. -/
def isWord (c : Char) : Bool :=
  if c.toNat < 0x80 then c.isAlphanum || c == '_'
  else isAlphabetic c || Category.marks.any (·.has c) || Category.decimalNumber.has c ||
    Category.connectorPunctuation.has c || c.toNat == 0x200C || c.toNat == 0x200D

def isCased (c : Char) : Bool :=
  isUppercase c || isLowercase c || Category.titlecaseLetter.has c

/-- Characters that are passed over when the case of the word around them is judged. -/
def isCaseIgnorable (c : Char) : Bool :=
  Category.nonspacingMark.has c || Category.enclosingMark.has c || Category.format.has c ||
    Category.modifierLetter.has c || Category.modifierSymbol.has c ||
    Tables.caseIgnorablePunctuation.contains c.toNat

/-- Characters that join the one before them. -/
def isGraphemeExtend (c : Char) : Bool :=
  Category.nonspacingMark.has c || Category.enclosingMark.has c ||
    Tables.otherGraphemeExtend.contains c.toNat

/-- Everything but separators other than the space, and characters without a form of their own. -/
def isPrintable (c : Char) : Bool :=
  if c.toNat < 0x80 then 0x20 ≤ c.toNat && c.toNat < 0x7F
  else !(Category.separators.any (·.has c) || Category.others.any (·.has c))

end TextSieve.Unicode
