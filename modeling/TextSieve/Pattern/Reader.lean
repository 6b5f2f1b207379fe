import TextSieve.Pattern.Bracket

/-!
Reading a pattern. The text is read from left to right; what has been read is kept as a stack of
open groups, each with the branches and items it holds so far. Flags are worked into the items as
they are read, so the result is a plain expression. A pattern is refused if it is malformed, nested
too deeply or too large.
-/

namespace TextSieve.Pattern

/-- Something a repetition sign can stand behind, or a setting of flags, which it cannot. -/
inductive Item
  | term (r : Regex) (depth : Nat)
  | setting
deriving DecidableEq, Repr

namespace Item

def regex : Item → Regex
  | term r _ => r
  | setting => .empty

def depth : Item → Nat
  | term _ d => d
  | setting => 0

end Item

/-- A sequence or a choice, with its depth. Only a real one, of two parts or more, is a level of
its own. -/
structure Branch where
  regex : Regex
  depth : Nat
deriving DecidableEq, Repr

def depthOf (depths : List Nat) : Nat :=
  match depths with
  | [] => 0
  | [d] => d
  | ds => ds.foldl max 0 + 1

/-- What surrounds an open group: the flags to return to, the name of the group if it has one, and
the branches and items before it, latest first. -/
structure Outer where
  flags : Flags
  name : Option Text
  branches : List Branch
  items : List Item
deriving DecidableEq, Repr

structure Reader where
  flags : Flags
  branches : List Branch := []
  items : List Item := []
  outers : List Outer := []
  /-- The names of the groups read so far. -/
  names : List Text := []
  /-- The brackets that are open, the innermost first. -/
  brackets : List Bracket := []
deriving DecidableEq, Repr

namespace Reader

def push (s : Reader) (r : Regex) (depth : Nat) : Reader :=
  { s with items := .term r depth :: s.items }

/-- The items of the branch that is being read. -/
def branch (s : Reader) : Branch :=
  ⟨.cats (s.items.reverse.map Item.regex), depthOf (s.items.map Item.depth)⟩

/-- All branches of the group that is being read. -/
def choice (s : Reader) : Branch :=
  let all := s.branch :: s.branches
  ⟨.alts (all.reverse.map Branch.regex), depthOf (all.map Branch.depth)⟩

/-! ### Single characters -/

def literal? (f : Flags) (c : Char) (byte : Bool) : Option Regex :=
  if byte && !f.unicode && c.toNat ≥ 0x80 then none
  else if !f.caseless then some (.one (.single c))
  else if f.unicode then some (.one (.caseless c))
  else if c.toNat < 0x80 then some (.one (.union (.single c.toLower) (.single c.toUpper)))
  else some (.one (.single c))

def atom? (f : Flags) : Atom → Option Regex
  | .literal c byte => literal? f c byte
  | .set s => some (.one s)
  | .look l => some (.look l)

/-- What a dot stands for. -/
def dot? (f : Flags) : Option Regex :=
  if !f.unicode then none
  else if f.dotAll then some (.one (.compl .none))
  else if f.crlf then some (.one (.compl (.union (.single '\n') (.single '\r'))))
  else some (.one (.compl (.single '\n')))

def startLook (f : Flags) : Look :=
  if f.multiLine then (if f.crlf then .anyLineStart else .lineStart) else .textStart

def stopLook (f : Flags) : Look :=
  if f.multiLine then (if f.crlf then .anyLineStop else .lineStop) else .textStop

/-! ### Repetition -/

/-- Repeats the last item; `lazy` says that a `?` follows the sign. -/
def repeat? (s : Reader) (low : Nat) (high : Option Nat) (lazy : Bool) : Option Reader :=
  match s.items with
  | .term r depth :: items =>
    let greedy := lazy == s.flags.swapGreed
    some { s with items := .term (r.repeated low high greedy) (depth + 1) :: items }
  | _ => none

/-- The largest number of rounds that can be written. -/
def countLimit : Nat := 4294967295

def trimBlank (t : Text) : Text :=
  (Text.trimStart (Text.trimStart t).reverse).reverse

def count? (t : Text) : Option Nat :=
  let digits := trimBlank t
  if digits ≠ [] ∧ digits.all Char.isDigit ∧ Text.digitsValue digits ≤ countLimit then
    some (Text.digitsValue digits)
  else none

/-- The bounds between the braces of a counted repetition. -/
def bounds? (t : Text) : Option (Nat × Option Nat) :=
  match Text.cut? [','] t with
  | none => (count? t).map fun n => (n, some n)
  | some (low, []) => (count? low).map (·, none)
  | some (low, high) =>
    (count? low).bind fun low => (count? high).bind fun high =>
      if low ≤ high then some (low, some high) else none

/-! ### Groups -/

def openGroup (s : Reader) (flags : Flags) (name : Option Text) : Reader :=
  { s with
    flags := flags
    branches := []
    items := []
    outers := ⟨s.flags, name, s.branches, s.items⟩ :: s.outers }

def closeGroup? (s : Reader) : Option Reader :=
  match s.outers with
  | [] => none
  | o :: outers =>
    let inner := s.choice
    let r := match o.name with
      | some name => .group name inner.regex
      | none => inner.regex
    some { s with
      flags := o.flags
      branches := o.branches
      items := .term r (inner.depth + 1) :: o.items
      outers := outers }

def isNameStart (c : Char) : Bool :=
  c == '_' || Unicode.isAlphabetic c

def isNameChar (c : Char) : Bool :=
  c == '_' || c == '.' || c == '[' || c == ']' || Unicode.isAlphanumeric c

def isName : Text → Bool
  | [] => false
  | c :: rest => isNameStart c && rest.all isNameChar

/-- Opens a group whose name is read up to `>`. No two groups may share a name. -/
def openNamed? (s : Reader) (t : Text) : Option (Reader × Text) :=
  match t.span (· != '>') with
  | (name, '>' :: rest) =>
    if isName name && !s.names.contains name then
      some ({ s.openGroup s.flags (some name) with names := name :: s.names }, rest)
    else none
  | _ => none

/-- Reads flags up to `)`, which sets them for the rest of the group, or `:`, which opens a group
under them. -/
def openFlags? (s : Reader) (t : Text) : Option (Reader × Text) :=
  match t.span fun c => c != ')' && c != ':' with
  | (letters, ')' :: rest) =>
    if letters = [] then none
    else (s.flags.withLetters? true [] letters).map fun f =>
      ({ s with flags := f, items := .setting :: s.items }, rest)
  | (letters, ':' :: rest) =>
    (s.flags.withLetters? true [] letters).map fun f => (s.openGroup f none, rest)
  | _ => none

/-- Reads what follows an opening parenthesis. Conditions on the text around are refused. -/
def open? (s : Reader) (t : Text) : Option (Reader × Text) :=
  match s.flags.skip t with
  | '?' :: '=' :: _ | '?' :: '!' :: _ | '?' :: '<' :: '=' :: _ | '?' :: '<' :: '!' :: _ => none
  | '?' :: 'P' :: '<' :: rest => s.openNamed? rest
  | '?' :: '<' :: rest => s.openNamed? rest
  | '?' :: rest => s.openFlags? rest
  | rest => some (s.openGroup s.flags none, rest)

/-! ### Steps

A step reads the piece that starts with the next character and says how many further characters it
took. -/

/-- The reader after a piece that ends before `after`, and how much of `rest` the piece took. -/
def upTo (rest : Text) (s : Reader) (after : Text) : Reader × Nat :=
  (s, rest.length - after.length)

/-- A repetition sign, which a `?` right behind it makes lazy. -/
def sign? (s : Reader) (low : Nat) (high : Option Nat) (rest : Text) : Option (Reader × Nat) :=
  let lazy := rest.head? == some '?'
  (s.repeat? low high lazy).map (·, lazy.toNat)

/-- A counted repetition, behind its opening brace. -/
def counted? (s : Reader) (rest : Text) : Option (Reader × Nat) :=
  (s.flags.braced? false rest).bind fun (content, after) =>
    (bounds? content).bind fun (low, high) =>
      match s.flags.skip after with
      | '?' :: after => (s.repeat? low high true).map (upTo rest · after)
      | _ => (s.repeat? low high false).map (upTo rest · after)

/-- Reads a piece outside brackets. -/
def outside? (s : Reader) (c : Char) (rest : Text) : Option (Reader × Nat) :=
  match c with
  | '(' => (s.open? rest).map fun (s, after) => upTo rest s after
  | ')' => s.closeGroup?.map (·, 0)
  | '|' => some ({ s with branches := s.branch :: s.branches, items := [] }, 0)
  | '[' => some ({ s with brackets := [Bracket.fresh] }, 0)
  | '?' => s.sign? 0 (some 1) rest
  | '*' => s.sign? 0 none rest
  | '+' => s.sign? 1 none rest
  | '\x7b' => s.counted? rest
  | '\\' =>
    (Atom.read? s.flags rest).bind fun (a, after) =>
      (atom? s.flags a).map fun r => upTo rest (s.push r 0) after
  | '.' => (dot? s.flags).map fun r => (s.push r 0, 0)
  | '^' => some (s.push (.look (startLook s.flags)) 0, 0)
  | '$' => some (s.push (.look (stopLook s.flags)) 0, 0)
  | c => (literal? s.flags c false).map fun r => (s.push r 0, 0)

/-- Replaces the innermost bracket. -/
def inBracket (s : Reader) (b : Bracket) (outer : List Bracket) : Reader :=
  { s with brackets := b :: outer }

/-- Closes the innermost bracket: its set is an item of the bracket around it, or of the branch. -/
def closeBracket? (s : Reader) (b : Bracket) (outer : List Bracket) : Option Reader :=
  (b.close? s.flags).map fun n =>
    match outer with
    | [] => { s with brackets := [] }.push (.one n.set) n.depth
    | o :: outer => s.inBracket (o.push n.set n.depth) outer

/-- Reads a piece inside the innermost bracket `b`, once its beginning has been read. -/
def inside? (s : Reader) (b : Bracket) (outer : List Bracket) (c : Char) (rest : Text) :
    Option (Reader × Nat) :=
  match c, rest with
  | '[', rest =>
    match Bracket.namedClass? s.flags rest with
    | some (some set, after) => some (upTo rest (s.inBracket (b.push set 0) outer) after)
    | some (none, _) => none
    | none => some (s.inBracket .fresh (b.begun :: outer), 0)
  | ']', _ => (s.closeBracket? b outer).map (·, 0)
  | '&', '&' :: _ => some (s.inBracket (b.operator s.flags .intersection) outer, 1)
  | '-', '-' :: _ => some (s.inBracket (b.operator s.flags .difference) outer, 1)
  | '~', '~' :: _ => some (s.inBracket (b.operator s.flags .symmetricDifference) outer, 1)
  | c, rest =>
    (Bracket.entry? s.flags c rest).map fun (set, after) =>
      upTo rest (s.inBracket (b.push set 0) outer) after

/-- Reads the piece that starts with `c`. -/
def step? (s : Reader) (c : Char) (rest : Text) : Option (Reader × Nat) :=
  if s.flags.verbose && Unicode.isBlank c then some (s, 0)
  else if s.flags.verbose && c == '#' then
    some (s, (rest.takeWhile (· != '\n')).length + 1)
  else
    match s.brackets with
    | [] => s.outside? c rest
    | b :: outer =>
      match b.opening? c with
      | some b => some (s.inBracket b outer, 0)
      | none => s.inside? b outer c rest

/-- Reads a pattern to its end; `taken` counts the characters that the last piece has taken. -/
def read? (s : Reader) (taken : Nat) : Text → Option Reader
  | [] => some s
  | c :: rest =>
    match taken with
    | n + 1 => read? s n rest
    | 0 =>
      match s.step? c rest with
      | some (s, n) => read? s n rest
      | none => none

/-- The deepest nesting of a pattern. -/
def nestLimit : Nat := 250

/-- The expression, once everything that was opened is closed. -/
def finish? (s : Reader) : Option Regex :=
  if s.outers = [] ∧ s.brackets = [] then
    let whole := s.choice
    if whole.depth ≤ nestLimit ∧ whole.regex.size ≤ Regex.sizeLimit then some whole.regex else none
  else none

end Reader

/-- The expression that a pattern stands for, matching without regard to case if `caseless`. -/
def Regex.ofPattern? (caseless : Bool) (pattern : Text) : Option Regex :=
  (Reader.read? { flags := { caseless := caseless } } 0 pattern).bind Reader.finish?

/-- Whether a text is a pattern at all. -/
def isPattern (pattern : Text) : Bool :=
  (Regex.ofPattern? false pattern).isSome

end TextSieve.Pattern
