import TextSieve.Unicode.CaseMappings
import TextSieve.Unicode.Properties

/-!
Case. `fold` is simple case folding, one character to one; two characters that differ in case only
have the same folding. `lower` is the full lowercase form of a text, where the last sigma of a word
has a form of its own and one character becomes two.
-/

namespace TextSieve.Unicode

def fold (c : Char) : Char :=
  if c.toNat < 0x80 then c.toLower else charOr c (shifted Tables.foldings c.toNat)

/-- All characters with the folding of `c`. -/
def variants (c : Char) : List Char :=
  let f := fold c
  f :: f.toUpper ::
    Tables.foldings.toList.filterMap fun s => (s.source? f.toNat).map (charOr f)

/-- The lowercase form of a single character, two characters for a dotted capital I. -/
def lowerChar (c : Char) : List Char :=
  if c.toNat < 0x80 then [c.toLower]
  else if c == '\u0130' then ['i', '\u0307']
  else [charOr c (shifted Tables.lowercasings c.toNat)]

/-- Whether the next character that counts for case has one. -/
def startsCased (cs : List Char) : Bool :=
  match cs.dropWhile isCaseIgnorable with
  | c :: _ => isCased c
  | [] => false

/-- The lowercase form of a text that follows `before`, which is given from its end. -/
def lowerAfter (before : List Char) : List Char → List Char
  | [] => []
  | c :: rest =>
    let lowered :=
      if c == 'Σ' then
        if startsCased before && !startsCased rest then ['ς'] else ['σ']
      else lowerChar c
    lowered ++ lowerAfter (c :: before) rest

def lower (cs : List Char) : List Char :=
  lowerAfter [] cs

end TextSieve.Unicode
