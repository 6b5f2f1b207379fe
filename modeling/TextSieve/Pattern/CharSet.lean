import TextSieve.Unicode.Casing
import TextSieve.Unicode.Script

/-!
Sets of characters, as a pattern describes them. A set is kept as the description; `contains` gives
its meaning.
-/

namespace TextSieve.Pattern

/-- Properties that a pattern can ask for by name. -/
inductive Property
  | digit | blank | word | alphabetic | uppercase | lowercase | cased | caseIgnorable
  | graphemeExtend
deriving DecidableEq, Repr

def Property.has : Property → Char → Bool
  | digit => Unicode.isDigit
  | blank => Unicode.isBlank
  | word => Unicode.isWord
  | alphabetic => Unicode.isAlphabetic
  | uppercase => Unicode.isUppercase
  | lowercase => Unicode.isLowercase
  | cased => Unicode.isCased
  | caseIgnorable => Unicode.isCaseIgnorable
  | graphemeExtend => Unicode.isGraphemeExtend

inductive CharSet
  | none
  | single (c : Char)
  /-- All characters that differ from `c` in case only. -/
  | caseless (c : Char)
  | range (first last : Char)
  | property (p : Property)
  | categories (ks : List Unicode.Category)
  /-- A script of the table of scripts, by its place there. -/
  | script (index : Nat)
  | union (a b : CharSet)
  | inter (a b : CharSet)
  | diff (a b : CharSet)
  | compl (a : CharSet)
  /-- All characters that differ in case only from a member. -/
  | folded (a : CharSet)
deriving DecidableEq, Repr

namespace CharSet

def contains : CharSet → Char → Bool
  | none, _ => false
  | single a, c => c == a
  | caseless a, c => Unicode.fold c == Unicode.fold a
  | range first last, c => first ≤ c && c ≤ last
  | property p, c => p.has c
  | categories ks, c => ks.any (·.has c)
  | script i, c => Unicode.Script.has i c
  | union a b, c => a.contains c || b.contains c
  | inter a b, c => a.contains c && b.contains c
  | diff a b, c => a.contains c && !b.contains c
  | compl a, c => !a.contains c
  | folded a, c => a.contains c || (Unicode.variants c).any fun d => a.contains d

/-- About how many bytes an automaton takes for a set: 32 for each byte of a single character, and
some 60 for each run of code points in a larger set. -/
def size : CharSet → Nat
  | none => 32
  | single c => 32 * c.utf8Size
  | caseless c => 32 * c.utf8Size + 72
  | range _ last => 72 * last.utf8Size
  | property .digit => 4000
  | property .blank => 700
  | property .cased => 10000
  | property .caseIgnorable | property .graphemeExtend => 25000
  | property _ => 45000
  | categories ks => min 45000 (ks.foldl (fun n k => n + 60 * k.table.runs) 32)
  | script i => 32 + 60 * ((Unicode.Tables.scripts[i]?).map fun s => s.members.runs).getD 0
  | union a b | diff a b => a.size + b.size
  | inter a b => min a.size b.size
  | compl a => a.size + 360
  | folded a => a.size + 72

/-- The characters that are in one of the two sets and not in the other. -/
def symmDiff (a b : CharSet) : CharSet :=
  union (diff a b) (diff b a)

def unions (sets : List CharSet) : CharSet :=
  match sets with
  | [] => none
  | [s] => s
  | s :: rest => union s (unions rest)

theorem contains_single (a c : Char) : (single a).contains c = true ↔ c = a := by
  simp [contains]

theorem contains_unions (sets : List CharSet) (c : Char) :
    (unions sets).contains c = sets.any (·.contains c) := by
  fun_induction unions sets with
  | case1 => rfl
  | case2 s => simp
  | case3 s rest _ ih => simp [contains, ih]

def digit : CharSet := property .digit
def blank : CharSet := property .blank
def word : CharSet := property .word

def ascii : CharSet := range '\x00' '\x7f'

def asciiDigit : CharSet := range '0' '9'
def asciiUpper : CharSet := range 'A' 'Z'
def asciiLower : CharSet := range 'a' 'z'
def asciiAlpha : CharSet := union asciiUpper asciiLower
def asciiAlnum : CharSet := union asciiDigit asciiAlpha
def asciiWord : CharSet := union asciiAlnum (single '_')
def asciiBlank : CharSet := union (range '\t' '\r') (single ' ')
def asciiHex : CharSet := unions [asciiDigit, range 'A' 'F', range 'a' 'f']
def asciiPunct : CharSet :=
  unions [range '!' '/', range ':' '@', range '[' '\x60', range '\x7b' '~']

/-- The classes that are written `[:name:]` inside brackets. -/
def asciiClass? (name : List Char) : Option CharSet :=
  match String.ofList name with
  | "alnum" => some asciiAlnum
  | "alpha" => some asciiAlpha
  | "ascii" => some ascii
  | "blank" => some (union (single '\t') (single ' '))
  | "cntrl" => some (union (range '\x00' '\x1f') (single '\x7f'))
  | "digit" => some asciiDigit
  | "graph" => some (range '!' '~')
  | "lower" => some asciiLower
  | "print" => some (range ' ' '~')
  | "punct" => some asciiPunct
  | "space" => some asciiBlank
  | "upper" => some asciiUpper
  | "word" => some asciiWord
  | "xdigit" => some asciiHex
  | _ => Option.none

end CharSet

end TextSieve.Pattern
