import TextSieve.Pattern.Regex

/-!
Running an expression on a text. A cursor is a place in a text together with what follows it; a
thread is a cursor and the way that led to it. `run` takes threads to all places that the expression
reaches from them, best first: what an earlier thread reaches before what a later one does, the first
alternative before the second, more rounds of a greedy repetition before fewer. Of several ways to
one place only the best is kept. `search` runs from the places of the text in their order, so that
the best thread is the best match at the first place that has one.
-/

namespace TextSieve.Pattern

/-- A place in a text: its offset, the character before it, and the text after it. -/
structure Cursor where
  offset : Nat
  before : Option Char
  rest : Text
deriving DecidableEq, Repr

namespace Cursor

def start (t : Text) : Cursor := ⟨0, none, t⟩

/-- Moves past the character `c`, which stands before `rest`. -/
def past (k : Cursor) (c : Char) (rest : Text) : Cursor :=
  ⟨k.offset + c.utf8Size, some c, rest⟩

/-- The first place at or after `k` with at least the offset `n`. -/
def seek (n offset : Nat) (before : Option Char) : Text → Cursor
  | [] => ⟨offset, before, []⟩
  | c :: rest =>
    if n ≤ offset then ⟨offset, before, c :: rest⟩
    else seek n (offset + c.utf8Size) (some c) rest

def moveTo (k : Cursor) (n : Nat) : Cursor :=
  seek n k.offset k.before k.rest

/-- The place behind the next character. -/
def next? (k : Cursor) : Option Cursor :=
  match k.rest with
  | [] => none
  | c :: rest => some (k.past c rest)

end Cursor

/-- A set of offsets, one bit for each. -/
structure OffsetSet where
  bits : Nat := 0

namespace OffsetSet

def empty : OffsetSet := ⟨0⟩

def contains (s : OffsetSet) (n : Nat) : Bool := s.bits.testBit n

def insert (s : OffsetSet) (n : Nat) : OffsetSet := ⟨s.bits ||| 1 <<< n⟩

@[simp] theorem contains_empty (n : Nat) : empty.contains n = false := by
  simp [empty, contains]

@[simp] theorem contains_insert (s : OffsetSet) (m n : Nat) :
    (s.insert m).contains n = (s.contains n || decide (m = n)) := by
  simp [insert, contains, Nat.testBit_or, Nat.one_shiftLeft, Nat.testBit_two_pow]

end OffsetSet

/-- A way the run has gone: where it started, where it is, where the groups that are open began, the
innermost first, and where the named groups last matched, the latest first. -/
structure Thread where
  start : Nat
  cursor : Cursor
  opened : List Nat := []
  groups : List (Text × Span) := []
deriving DecidableEq, Repr

namespace Thread

/-- The thread that starts at a place. -/
def startAt (k : Cursor) : Thread := { start := k.offset, cursor := k }

def offset (t : Thread) : Nat := t.cursor.offset

def group? (t : Thread) (name : Text) : Option Span :=
  (t.groups.find? (·.1 == name)).map (·.2)

/-- Goes on past a character of the set. -/
def past? (s : CharSet) (t : Thread) : Option Thread :=
  match t.cursor.rest with
  | [] => none
  | c :: rest => if s.contains c then some { t with cursor := t.cursor.past c rest } else none

def meets (l : Look) (t : Thread) : Bool :=
  l.holds t.cursor.before t.cursor.rest.head?

def openGroup (t : Thread) : Thread :=
  { t with opened := t.offset :: t.opened }

/-- Closes the innermost group. -/
def closeGroup (name : Text) (t : Thread) : Thread :=
  match t.opened with
  | [] => t
  | start :: opened =>
    { t with opened := opened, groups := (name, ⟨start, t.offset⟩) :: t.groups }

/-- Keeps the first thread at each offset that is not in `seen`. -/
def distinct (seen : OffsetSet) : List Thread → List Thread
  | [] => []
  | t :: rest =>
    if seen.contains t.offset then distinct seen rest
    else t :: distinct (seen.insert t.offset) rest

end Thread

namespace Regex

open Thread

/-! ### Repetition

The threads go through the rounds of a repetition by `body`. -/

/-- Exactly `n` rounds. -/
def exactly (body : List Thread → List Thread) : Nat → List Thread → List Thread
  | 0, ts => ts
  | _ + 1, [] => []
  | n + 1, ts => exactly body n (body ts)

/-- A thread in a bounded repetition: one that may go another round, or one that has left. -/
structure Round where
  thread : Thread
  active : Bool

/-- One more round for every active thread. The thread itself leaves, after its continuations if
the repetition is greedy and before them if not. -/
def Round.step (body : List Thread → List Thread) (greedy : Bool) (r : Round) : List Round :=
  if r.active then
    let deeper := (body [r.thread]).map (⟨·, true⟩)
    if greedy then deeper ++ [⟨r.thread, false⟩] else ⟨r.thread, false⟩ :: deeper
  else [r]

/-- Rounds at one place that are both active or both not have one key. -/
def Round.key (r : Round) : Nat :=
  2 * r.thread.offset + r.active.toNat

/-- Keeps the first round of each key that is not in `seen`. -/
def Round.distinct (seen : OffsetSet) : List Round → List Round
  | [] => []
  | r :: rest =>
    if seen.contains r.key then distinct seen rest
    else r :: distinct (seen.insert r.key) rest

/-- Up to `n` rounds. -/
def atMost (body : List Thread → List Thread) (greedy : Bool) : Nat → List Round → List Thread
  | 0, rs => Thread.distinct .empty (rs.map (·.thread))
  | n + 1, rs =>
    if rs.any (·.active) then
      atMost body greedy n (Round.distinct .empty (rs.flatMap (Round.step body greedy)))
    else Thread.distinct .empty (rs.map (·.thread))

/-- The state of an unbounded repetition: the threads that have left it, the latest first, and the
offsets at which a round has begun and those at which one has ended. -/
structure Walk where
  left : List Thread := []
  begun : OffsetSet := .empty
  ended : OffsetSet := .empty

namespace Walk

def leave (w : Walk) (t : Thread) : Walk := { w with left := t :: w.left }

def begin (w : Walk) (t : Thread) : Walk := { w with begun := w.begun.insert t.offset }

def finish (w : Walk) (t : Thread) : Walk := { w with ended := w.ended.insert t.offset }

/-- Goes a round from a thread, unless one has begun at its place before, and from each thread that
ends the round goes on or leaves, unless one has ended there before. Every further round that is
gone has moved on, so the length of the text bounds their number. -/
def enter (body : List Thread → List Thread) (greedy : Bool) : Nat → Walk → Thread → Walk
  | 0, w, _ => w
  | n + 1, w, t =>
    if w.begun.contains t.offset then w
    else
      (body [t]).foldl (fun w u =>
        if w.ended.contains u.offset then w
        else if greedy then (enter body greedy n (w.finish u) u).leave u
        else enter body greedy n ((w.finish u).leave u) u) (w.begin t)

/-- Enters the repetition from a thread; `skippable` says that it may be left at once. -/
def visit (body : List Thread → List Thread) (greedy skippable : Bool) (w : Walk) (t : Thread) :
    Walk :=
  let entered (w : Walk) := enter body greedy (t.cursor.rest.length + 1) w t
  if !skippable then entered w
  else if greedy then (entered w).leave t
  else entered (w.leave t)

end Walk

/-- One round or more or, if `skippable`, none. -/
def unbounded (body : List Thread → List Thread) (greedy skippable : Bool) (ts : List Thread) :
    List Thread :=
  distinct .empty (ts.foldl (Walk.visit body greedy skippable) {}).left.reverse

/-- All rounds from `low` to `high`. -/
def rounds (body : List Thread → List Thread) (greedy : Bool) :
    Nat → Option Nat → List Thread → List Thread
  | 0, none, ts => unbounded body greedy true ts
  | n + 1, none, ts => unbounded body greedy false (exactly body n ts)
  | low, some high, ts =>
    atMost body greedy (high - low) ((exactly body low ts).map (⟨·, true⟩))

/-! ### Runs -/

/-- All places that an expression reaches from the threads, each once, best first. -/
def run : Regex → List Thread → List Thread
  | empty, ts => ts
  | one s, ts => ts.filterMap (past? s)
  | look l, ts => ts.filter (meets l)
  | cat a b, ts => b.run (a.run ts)
  | alt a b, ts => distinct .empty (ts.flatMap fun t => a.run [t] ++ b.run [t])
  | rep r low high greedy, ts => rounds r.run greedy low high ts
  | group name r, ts => (r.run (ts.map openGroup)).map (closeGroup name)

/-- The first `n` places from the cursor on, and the next one if the text goes on. -/
def places : Nat → Cursor → List Cursor × Option Cursor
  | 0, k => ([], some k)
  | n + 1, k =>
    match k.next? with
    | none => ([k], none)
    | some next => let (ks, after) := places n next; (k :: ks, after)

/-- The best thread from the first place that has any. The places are tried in lots, each twice as
large as the one before. -/
def searchLots (r : Regex) : (fuel lot : Nat) → Cursor → Option Thread
  | 0, _, _ => none
  | fuel + 1, lot, k =>
    let (ks, after) := places lot k
    ((r.run (ks.map startAt)).head?).or (after.bind (searchLots r fuel (2 * lot)))

/-- The match at the first place at or after the cursor that has one. -/
def search (r : Regex) (k : Cursor) : Option Thread :=
  searchLots r (k.rest.length + 1) 1 k

def isMatch (r : Regex) (t : Text) : Bool :=
  (r.search (Cursor.start t)).isSome

/-- The matches from a cursor on, each search starting where the match before it ended. An empty
match where the last one ended is passed over by one character. -/
def matchesFrom (r : Regex) : Nat → Option Nat → Cursor → List Thread
  | 0, _, _ => []
  | n + 1, last, k =>
    match r.search k with
    | none => []
    | some f =>
      if f.start = f.offset ∧ last = some f.offset then
        match k.rest with
        | [] => []
        | c :: rest =>
          match r.search (k.past c rest) with
          | none => []
          | some f => f :: matchesFrom r n (some f.offset) f.cursor
      else f :: matchesFrom r n (some f.offset) f.cursor

/-- All matches in a text, from left to right, none overlapping the next. -/
def allMatches (r : Regex) (t : Text) : List Thread :=
  r.matchesFrom (t.length + 2) none (Cursor.start t)

end Regex

end TextSieve.Pattern
