import TextSieve.Unicode.Letters
import TextSieve.Unicode.Marks
import TextSieve.Unicode.Symbols

/-!
General categories. Each character has exactly one; a character in no table is unassigned. The
groups of categories that have a name of their own are listed with it.
-/

namespace TextSieve.Unicode

inductive Category
  | uppercaseLetter | lowercaseLetter | titlecaseLetter | modifierLetter | otherLetter
  | nonspacingMark | spacingMark | enclosingMark
  | decimalNumber | letterNumber | otherNumber
  | connectorPunctuation | dashPunctuation | openPunctuation | closePunctuation
  | initialPunctuation | finalPunctuation | otherPunctuation
  | mathSymbol | currencySymbol | modifierSymbol | otherSymbol
  | spaceSeparator | lineSeparator | paragraphSeparator
  | control | format | surrogate | privateUse | unassigned
deriving DecidableEq, Repr

namespace Category

def letters : List Category :=
  [uppercaseLetter, lowercaseLetter, titlecaseLetter, modifierLetter, otherLetter]

def casedLetters : List Category :=
  [uppercaseLetter, lowercaseLetter, titlecaseLetter]

def marks : List Category :=
  [nonspacingMark, spacingMark, enclosingMark]

def numbers : List Category :=
  [decimalNumber, letterNumber, otherNumber]

def punctuation : List Category :=
  [connectorPunctuation, dashPunctuation, openPunctuation, closePunctuation,
    initialPunctuation, finalPunctuation, otherPunctuation]

def symbols : List Category :=
  [mathSymbol, currencySymbol, modifierSymbol, otherSymbol]

def separators : List Category :=
  [spaceSeparator, lineSeparator, paragraphSeparator]

/-- All categories with assigned characters. -/
def assigned : List Category :=
  letters ++ marks ++ numbers ++ punctuation ++ symbols ++ separators ++
    [control, format, surrogate, privateUse]

def others : List Category :=
  [control, format, surrogate, privateUse, unassigned]

/-- The code points of an assigned category; no character is a surrogate. -/
def table : Category → Table
  | uppercaseLetter => Tables.uppercaseLetter
  | lowercaseLetter => Tables.lowercaseLetter
  | titlecaseLetter => Tables.titlecaseLetter
  | modifierLetter => Tables.modifierLetter
  | otherLetter => Tables.otherLetter
  | nonspacingMark => Tables.nonspacingMark
  | spacingMark => Tables.spacingMark
  | enclosingMark => Tables.enclosingMark
  | decimalNumber => Tables.decimalNumber
  | letterNumber => Tables.letterNumber
  | otherNumber => Tables.otherNumber
  | connectorPunctuation => Tables.connectorPunctuation
  | dashPunctuation => Tables.dashPunctuation
  | openPunctuation => Tables.openPunctuation
  | closePunctuation => Tables.closePunctuation
  | initialPunctuation => Tables.initialPunctuation
  | finalPunctuation => Tables.finalPunctuation
  | otherPunctuation => Tables.otherPunctuation
  | mathSymbol => Tables.mathSymbol
  | currencySymbol => Tables.currencySymbol
  | modifierSymbol => Tables.modifierSymbol
  | otherSymbol => Tables.otherSymbol
  | spaceSeparator => Tables.spaceSeparator
  | lineSeparator => Tables.lineSeparator
  | paragraphSeparator => Tables.paragraphSeparator
  | control => Tables.control
  | format => Tables.format
  | privateUse => Tables.privateUse
  | surrogate | unassigned => #[]

def isAssigned (c : Char) : Bool :=
  assigned.any (·.table.contains c.toNat)

def has (k : Category) (c : Char) : Bool :=
  match k with
  | unassigned => !isAssigned c
  | k => k.table.contains c.toNat

/-- Short and long names, in lower case and without separators, and the categories they stand for. -/
def names : List (List String × List Category) := [
  (["l", "letter"], letters), (["lc", "casedletter"], casedLetters),
  (["lu", "uppercaseletter"], [uppercaseLetter]), (["ll", "lowercaseletter"], [lowercaseLetter]),
  (["lt", "titlecaseletter"], [titlecaseLetter]), (["lm", "modifierletter"], [modifierLetter]),
  (["lo", "otherletter"], [otherLetter]),
  (["m", "mark", "combiningmark"], marks),
  (["mn", "nonspacingmark"], [nonspacingMark]), (["mc", "spacingmark"], [spacingMark]),
  (["me", "enclosingmark"], [enclosingMark]),
  (["n", "number"], numbers),
  (["nd", "decimalnumber", "digit"], [decimalNumber]), (["nl", "letternumber"], [letterNumber]),
  (["no", "othernumber"], [otherNumber]),
  (["p", "punctuation", "punct"], punctuation),
  (["pc", "connectorpunctuation"], [connectorPunctuation]),
  (["pd", "dashpunctuation"], [dashPunctuation]),
  (["ps", "openpunctuation"], [openPunctuation]),
  (["pe", "closepunctuation"], [closePunctuation]),
  (["pi", "initialpunctuation"], [initialPunctuation]),
  (["pf", "finalpunctuation"], [finalPunctuation]),
  (["po", "otherpunctuation"], [otherPunctuation]),
  (["s", "symbol"], symbols),
  (["sm", "mathsymbol"], [mathSymbol]), (["sc", "currencysymbol"], [currencySymbol]),
  (["sk", "modifiersymbol"], [modifierSymbol]), (["so", "othersymbol"], [otherSymbol]),
  (["z", "separator"], separators),
  (["zs", "spaceseparator"], [spaceSeparator]), (["zl", "lineseparator"], [lineSeparator]),
  (["zp", "paragraphseparator"], [paragraphSeparator]),
  (["c", "other"], others),
  (["cc", "control", "cntrl"], [control]), (["cf", "format"], [format]),
  (["cs", "surrogate"], [surrogate]), (["co", "privateuse"], [privateUse]),
  (["cn", "unassigned"], [unassigned]), (["assigned"], assigned)]

def named? (name : String) : Option (List Category) :=
  (names.find? (·.1.contains name)).map (·.2)

end Category

end TextSieve.Unicode
