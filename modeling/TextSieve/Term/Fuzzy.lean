import TextSieve.Error
import TextSieve.Pattern.Literal

/-!
Fuzzy terms. A `~` in front of the core text or behind it lets any run of characters stand there,
and with a count next to it a run of exactly that length.
-/

namespace TextSieve

inductive Wildcard
  | unbounded
  | exactly (n : Nat)
deriving DecidableEq, Repr

structure FuzzyTerm where
  leading : Option Wildcard
  core : Text
  trailing : Option Wildcard
deriving DecidableEq, Repr

namespace Wildcard

/-- Counts stop here. -/
def countLimit : Nat := 18446744073709551615

/-- The wildcard with the count that the digits write; without digits it is unbounded. -/
def ofDigits (digits : Text) : Wildcard :=
  if digits = [] then unbounded else exactly (min (Text.digitsValue digits) countLimit)

def pattern : Wildcard → Text
  | unbounded => ['.', '*']
  | exactly n => ['.', '\x7b'] ++ Text.ofNat n ++ ['\x7d']

def count : Wildcard → Text
  | unbounded => []
  | exactly n => Text.ofNat n

end Wildcard

namespace FuzzyTerm

/-- The marker with its count in front, split off the beginning. -/
def splitLeading? (raw : Text) : Option (Wildcard × Text) :=
  match raw.span Char.isDigit with
  | (digits, '~' :: rest) => some (.ofDigits digits, rest)
  | _ => none

/-- The marker with its count behind, split off the end. -/
def splitTrailing (t : Text) : Text × Option Wildcard :=
  match t.reverse.span Char.isDigit with
  | (digits, '~' :: core) => (core.reverse, some (.ofDigits digits.reverse))
  | _ => (t, none)

/-- A term of which only the trailing marker is still to be split off. -/
def withLeading (leading : Option Wildcard) (raw t : Text) : Except Error FuzzyTerm :=
  let (core, trailing) := splitTrailing t
  if core = [] then .error (.term (.noCore raw))
  else if core.contains '~' then .error (.term (.markerInside raw))
  else .ok ⟨leading, core, trailing⟩

/-- Reads a term. A leading marker is taken only if a core is left without it. -/
def parse (raw : Text) : Except Error FuzzyTerm :=
  match splitLeading? raw with
  | some (leading, rest) =>
    match withLeading (some leading) raw rest with
    | .ok t => .ok t
    | .error _ => withLeading none raw raw
  | none => withLeading none raw raw

def isFuzzy (t : FuzzyTerm) : Bool :=
  t.leading.isSome || t.trailing.isSome

/-- The term in writing. -/
def display (t : FuzzyTerm) : Text :=
  (match t.leading with
    | some w => w.count ++ ['~']
    | none => []) ++
  t.core ++
  (match t.trailing with
    | some w => '~' :: w.count
    | none => [])

/-- The core between its wildcards; `asPattern` leaves the core as it is. -/
def body (t : FuzzyTerm) (asPattern : Bool) : Text :=
  (t.leading.map Wildcard.pattern).getD [] ++
  (if asPattern then t.core else Pattern.escape t.core) ++
  (t.trailing.map Wildcard.pattern).getD []

end FuzzyTerm

end TextSieve
