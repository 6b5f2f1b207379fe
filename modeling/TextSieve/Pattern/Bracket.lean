import TextSieve.Pattern.Atom

/-!
Sets in brackets, read item by item. An open bracket collects its items; an operator closes the
items before it into a left operand; the closing bracket joins all of it into one set.
-/

namespace TextSieve.Pattern

inductive SetOperator
  | intersection | difference | symmetricDifference
deriving DecidableEq, Repr

def SetOperator.apply : SetOperator → CharSet → CharSet → CharSet
  | intersection => .inter
  | difference => .diff
  | symmetricDifference => .symmDiff

/-- A set together with how deeply it is nested. -/
structure NestedSet where
  set : CharSet
  depth : Nat
deriving DecidableEq, Repr

/-- How much of the beginning of a bracket has been read: a `^` is only special right behind the
bracket, a `-` is literal before any other item, and so is a `]` that would be the first item. -/
inductive Opening
  | start | dashes | done
deriving DecidableEq, Repr

/-- An open bracket; the items are kept latest first. -/
structure Bracket where
  negated : Bool
  opening : Opening
  items : List NestedSet
  left : Option (NestedSet × SetOperator)
deriving DecidableEq, Repr

namespace Bracket

/-- A bracket of which nothing has been read. -/
def fresh : Bracket :=
  { negated := false, opening := .start, items := [], left := none }

/-- The bracket once something has been read that ends its beginning. -/
def begun (b : Bracket) : Bracket :=
  { b with opening := .done }

def push (b : Bracket) (s : CharSet) (depth : Nat) : Bracket :=
  { b.begun with items := ⟨s, depth⟩ :: b.items }

/-- The bracket after a character that is special at its beginning, and `none` if `c` is not. -/
def opening? (b : Bracket) (c : Char) : Option Bracket :=
  match b.opening, c with
  | .start, '^' => some { b with negated := true, opening := .dashes }
  | .start, '-' | .dashes, '-' =>
    some { b with items := ⟨.single '-', 0⟩ :: b.items, opening := .dashes }
  | .start, ']' | .dashes, ']' => if b.items = [] then some (b.push (.single ']') 0) else none
  | _, _ => none

/-- All items since the last operator as one set. -/
def joined (b : Bracket) : NestedSet :=
  match b.items with
  | [] => ⟨.none, 0⟩
  | [s] => s
  | items => ⟨.unions (items.reverse.map (·.set)), (items.map (·.depth)).foldl max 0 + 1⟩

/-- Everything read so far as one set. Both sides of an operator are folded before it is applied. -/
def operand (f : Flags) (b : Bracket) : NestedSet :=
  let right := b.joined
  match b.left with
  | none => right
  | some (left, op) =>
    ⟨op.apply (Atom.fold f left.set) (Atom.fold f right.set), max left.depth right.depth + 1⟩

def operator (f : Flags) (b : Bracket) (op : SetOperator) : Bracket :=
  { b with items := [], left := some (b.operand f, op), opening := .done }

/-- The set that the bracket stands for when it is closed. -/
def close? (f : Flags) (b : Bracket) : Option NestedSet :=
  let whole := b.operand f
  (Atom.negate? f b.negated (Atom.fold f whole.set)).map fun s => ⟨s, whole.depth + 1⟩

/-! ### Items -/

/-- One side of a range, or an item of its own. -/
def atom? (f : Flags) (c : Char) (rest : Text) : Option (Atom × Text) :=
  if c = '\\' then Atom.read? f rest else some (.literal c false, rest)

/-- The literal of an atom. Without `u` it must be in ASCII. -/
def literal? (f : Flags) : Atom → Option Char
  | .literal c _ => if f.unicode || c.toNat < 0x80 then some c else none
  | _ => none

def item? (f : Flags) (a : Atom) : Option CharSet :=
  match a with
  | .literal .. => (literal? f a).map .single
  | .set s => some s
  | .look _ => none

/-- The next character that is not blank; a comment sign is passed over, the comment is not. -/
def nextVisible (passed : Bool) : Text → Option Char
  | [] => none
  | c :: rest =>
    if Unicode.isBlank c then nextVisible passed rest
    else if !passed && c == '#' then nextVisible true rest
    else some c

/-- The character that decides whether a `-` before `t` makes a range. -/
def afterDash (f : Flags) (t : Text) : Option Char :=
  if f.verbose then (nextVisible false t).or t.head? else t.head?

/-- Reads a range or a single item that starts with `c`. -/
def entry? (f : Flags) (c : Char) (rest : Text) : Option (CharSet × Text) :=
  (atom? f c rest).bind fun (first, rest) =>
    match f.skip rest with
    | [] => none
    | '-' :: after =>
      if afterDash f after == some ']' || afterDash f after == some '-' then
        (item? f first).map (·, '-' :: after)
      else
        match f.skip after with
        | [] => none
        | d :: rest =>
          (atom? f d rest).bind fun (last, rest) =>
            (literal? f first).bind fun lo => (literal? f last).bind fun hi =>
              if lo ≤ hi then some (.range lo hi, rest) else none
    | rest => (item? f first).map (·, rest)

/-- Reads a class written `[:name:]` behind its bracket. -/
def namedClass? (f : Flags) (t : Text) : Option (Option CharSet × Text) :=
  match t with
  | ':' :: t =>
    let (negated, t) := match t with
      | '^' :: t => (true, t)
      | t => (false, t)
    match t.span (· != ':') with
    | (name, ':' :: ']' :: rest) =>
      (CharSet.asciiClass? name).map fun s => (Atom.negate? f negated (Atom.fold f s), rest)
    | _ => none
  | _ => none

end Bracket

end TextSieve.Pattern
