/-!
Tables of code points. A table lists stretches of code points in increasing order, each with a step,
and answers membership by halving. A table of shifts moves every code point of a stretch by one
distance and leaves all others where they are.
-/

namespace TextSieve.Unicode

/-- The code points from `first` to `last` that lie a multiple of `step` above `first`. -/
structure Stretch where
  first : Nat
  last : Nat
  step : Nat

namespace Stretch

def contains (s : Stretch) (n : Nat) : Bool :=
  s.first ≤ n && n ≤ s.last && (n - s.first) % s.step == 0

/-- How many runs of neighbouring code points there are. -/
def runs (s : Stretch) : Nat :=
  if s.step = 1 then 1 else (s.last - s.first) / s.step + 1

theorem contains_iff (s : Stretch) (n : Nat) :
    s.contains n = true ↔ s.first ≤ n ∧ n ≤ s.last ∧ (n - s.first) % s.step = 0 := by
  simp [contains, and_assoc]

end Stretch

/-- Stretches in increasing order, none overlapping the next. -/
abbrev Table := Array Stretch

namespace Table

/-- Halves the rows from `low` up to `high` until one of them can hold `n`. -/
def search (t : Table) (n : Nat) (low high : Nat) : Bool :=
  if low < high then
    let middle := (low + high) / 2
    match t[middle]? with
    | none => false
    | some s =>
      if n < s.first then search t n low middle
      else if s.last < n then search t n (middle + 1) high
      else s.contains n
  else false
termination_by high - low
decreasing_by all_goals omega

def contains (t : Table) (n : Nat) : Bool :=
  t.search n 0 t.size

def runs (t : Table) : Nat :=
  t.foldl (fun n s => n + s.runs) 0

end Table

/-- The code points of a stretch, and how far each is moved. -/
structure Shift where
  first : Nat
  last : Nat
  step : Nat
  distance : Int

namespace Shift

def applies (s : Shift) (n : Nat) : Bool :=
  Stretch.contains ⟨s.first, s.last, s.step⟩ n

/-- Where the shift takes the code point `n`. -/
def apply (s : Shift) (n : Nat) : Nat :=
  (n + s.distance).toNat

/-- The code point of the shift that is taken to `n`, if there is one. -/
def source? (s : Shift) (n : Nat) : Option Nat :=
  let origin := (n - s.distance).toNat
  if s.applies origin && s.apply origin == n then some origin else none

end Shift

/-- Moves `n` by the first shift that applies to it. -/
def shifted (shifts : Array Shift) (n : Nat) : Nat :=
  match shifts.find? (·.applies n) with
  | some s => s.apply n
  | none => n

/-- A code point as a character; one that is no character is left as the given one. -/
def charOr (c : Char) (n : Nat) : Char :=
  if n.isValidChar then Char.ofNat n else c

end TextSieve.Unicode
