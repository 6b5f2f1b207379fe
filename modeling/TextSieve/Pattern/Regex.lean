import TextSieve.Text
import TextSieve.Pattern.CharSet

/-!
Regular expressions as trees, after the flags of the pattern have been worked into them.

An engine builds an automaton for a tree and refuses one that takes more than ten mebibytes. How much
it takes depends on how the engine encodes sets and shares states. `Regex.size` and `Regex.sizeLimit`
only approximate that: close to the limit, what is refused here may compile there and the other way
around. So no result may rest on the number. Where the limit matters, theorems ask whether a pattern
compiles, and only what is far beyond the limit is taken to be refused.
-/

namespace TextSieve.Pattern

/-- What has to hold at an edge of a word. -/
inductive WordEdge
  | boundary | inside | start | stop | startHalf | stopHalf
deriving DecidableEq, Repr

/-- A condition on the place between two characters. -/
inductive Look
  | textStart | textStop
  | lineStart | lineStop
  /-- Lines that may also end in a carriage return, alone or before a line feed. -/
  | anyLineStart | anyLineStop
  | word (edge : WordEdge) (members : CharSet)
deriving DecidableEq, Repr

def WordEdge.holds (edge : WordEdge) (before after : Bool) : Bool :=
  match edge with
  | boundary => before != after
  | inside => before == after
  | start => !before && after
  | stop => before && !after
  | startHalf => !before
  | stopHalf => !after

/-- Whether the condition holds between the character before, if any, and the one after. -/
def Look.holds (look : Look) (before after : Option Char) : Bool :=
  match look with
  | textStart => before.isNone
  | textStop => after.isNone
  | lineStart => before.isNone || before == some '\n'
  | lineStop => after.isNone || after == some '\n'
  | anyLineStart =>
    before.isNone || before == some '\n' || (before == some '\r' && after != some '\n')
  | anyLineStop =>
    after.isNone || after == some '\r' || (after == some '\n' && before != some '\r')
  | word edge members => edge.holds (before.any members.contains) (after.any members.contains)

/-- A tree of the pattern language. A repetition runs from `low` times up to `high`, or without
end; a greedy one tries more rounds first. A named group reports where it matched. -/
inductive Regex
  | empty
  | one (s : CharSet)
  | look (l : Look)
  | cat (a b : Regex)
  | alt (a b : Regex)
  | rep (r : Regex) (low : Nat) (high : Option Nat) (greedy : Bool)
  | group (name : Text) (r : Regex)
deriving DecidableEq, Repr

namespace Regex

def cats : List Regex → Regex
  | [] => empty
  | [r] => r
  | r :: rest => cat r (cats rest)

def alts : List Regex → Regex
  | [] => empty
  | [r] => r
  | r :: rest => alt r (alts rest)

/-- Whether the expression can match nothing but the empty text. -/
def isEmptyOnly : Regex → Bool
  | empty | look _ => true
  | one _ => false
  | cat a b | alt a b => a.isEmptyOnly && b.isEmptyOnly
  | rep r _ high _ => high == some 0 || r.isEmptyOnly
  | group _ r => r.isEmptyOnly

/-- A repetition. More than one round of what is always empty is one round; no round at all is the
empty expression, and exactly one is the expression itself. -/
def repeated (r : Regex) (low : Nat) (high : Option Nat) (greedy : Bool) : Regex :=
  let (low, high) := if r.isEmptyOnly then (min low 1, some (min (high.getD 1) 1)) else (low, high)
  if high = some 0 then empty
  else if low = 1 ∧ high = some 1 then r
  else rep r low high greedy

/-- Whether the expression is a choice between sets, which an engine folds into one. -/
def isSet : Regex → Bool
  | one _ => true
  | alt a b => a.isSet && b.isSet
  | _ => false

/-- About how many bytes the automaton of the expression takes. -/
def size : Regex → Nat
  | empty => 0
  | one s => s.size
  | look _ => 32
  | cat a b => a.size + b.size
  | alt a b =>
    if a.isSet && b.isSet then max a.size b.size + min 16 (min a.size b.size)
    else a.size + b.size + 8
  | rep r low none _ => max low 1 * r.size + 40
  | rep r low (some high) _ => low * r.size + (high - low) * (r.size + 40)
  | group _ r => r.size + 64

/-- Larger automata are refused. -/
def sizeLimit : Nat := 10485760

end Regex

end TextSieve.Pattern
