import TextSieve.Error
import TextSieve.Options
import TextSieve.Query.Slashed
import TextSieve.Query.Tree

/-!
Reading a query. `OR` binds loosest, then `AND`, which may be left out, and a negation tightest. The
reading stops at the first place where nothing expected follows. Groups and negations may be nested
up to a limit, which the reader of a single operand counts down.
-/

namespace TextSieve.Query

/-- Where reading stopped: what is left of the query there, and what should have followed. -/
structure Stop where
  rest : Text
  expected : Expectation
deriving DecidableEq, Repr

/-- What has been read, with the rest of the query. -/
abbrev Reading (α : Type) := Except Stop (α × Text)

/-! ### Words -/

def isWordChar (c : Char) : Bool :=
  !Unicode.isBlank c && c != '(' && c != ')' && c != '"'

/-- The word at the beginning of a text, which may be empty. -/
def leadingWord (t : Text) : Text :=
  t.takeWhile isWordChar

/-- Whether a word ends before the text. -/
def endsWord (t : Text) : Bool :=
  !t.head?.any isWordChar

def andWord : Text := ['A', 'N', 'D']

def orWord : Text := ['O', 'R']

def notWord : Text := ['N', 'O', 'T']

def isKeyword (t : Text) : Bool :=
  t == andWord || t == orWord || t == notWord

/-- What follows the keyword, if it stands alone at the beginning. -/
def keyword? (word t : Text) : Option Text :=
  (Text.stripPrefix? word t).filter endsWord

/-! ### Operands -/

/-- A phrase, behind its opening quotation mark. -/
def readPhrase (t : Text) : Reading Query :=
  match Text.cut? ['"'] t with
  | none => .error ⟨[], .closingQuote⟩
  | some ([], _) => .error ⟨t, .phraseText⟩
  | some (text, rest) => .ok (phrase text, rest)

/-- A pattern, from its opening slash. -/
def readPattern (t : Text) : Reading Query :=
  match Slashed.scan? t with
  | none => .error ⟨[], .closingSlash⟩
  | some ([], _) => .error ⟨t.drop 1, .patternText⟩
  | some (text, n) => .ok (pattern text, t.dropBytes n)

/-- Whether the text starts with a pattern that is not empty and ends its word. -/
def startsPattern (t : Text) : Bool :=
  match Slashed.scan? t with
  | some (text, n) => text != [] && endsWord (t.dropBytes n)
  | none => false

/-- Whether a dash before the text negates what follows. -/
def dashNegates (t : Text) : Bool :=
  t.head?.any fun c => !Unicode.isBlank c && c != ')'

/-! ### Sequences -/

def startsBlank (t : Text) : Bool :=
  t.head?.any Unicode.isBlank

/-- The start of the next operand of an `AND`, which may be written or not. -/
def andNext? (t : Text) : Option Text :=
  if startsBlank t then
    let rest := Text.trimStart t
    match keyword? andWord rest with
    | some after => some (Text.trimStart after)
    | none =>
      if rest = [] ∨ rest.head? = some ')' ∨ (keyword? orWord rest).isSome then none
      else some rest
  else none

/-- The start of the next operand of an `OR`. -/
def orNext? (t : Text) : Option Text :=
  if startsBlank t then (keyword? orWord (Text.trimStart t)).map Text.trimStart else none

/-- The operands that follow; `next?` finds where each begins. An operand takes what it reads, so
each leaves less of the text than the one before. -/
def readMore (next? : Text → Option Text) (operand : Text → Reading Query) (t : Text) :
    Reading (List Query) :=
  match next? t with
  | none => .ok ([], t)
  | some start =>
    match operand start with
    | .error stop => .error stop
    | .ok (q, rest) =>
      if _h : rest.length < t.length then
        (readMore next? operand rest).map fun (qs, rest) => (q :: qs, rest)
      else .ok ([], t)
termination_by t.length

/-- Operands joined by `combine`; a single one stands for itself. -/
def readJoined (combine : List Query → Query) (next? : Text → Option Text)
    (operand : Text → Reading Query) (t : Text) : Reading Query :=
  match operand t with
  | .error stop => .error stop
  | .ok (q, rest) =>
    (readMore next? operand rest).map fun (qs, rest) =>
      (if qs = [] then q else combine (q :: qs), rest)

def readAnd (operand : Text → Reading Query) (t : Text) : Reading Query :=
  readJoined and andNext? operand t

def readOr (operand : Text → Reading Query) (t : Text) : Reading Query :=
  readJoined or orNext? (readAnd operand) t

/-! ### Nesting -/

/-- A group, behind its opening parenthesis. -/
def readGroup (operand : Text → Reading Query) (t : Text) : Reading Query :=
  match readOr operand (Text.trimStart t) with
  | .error stop => .error stop
  | .ok (q, rest) =>
    match Text.trimStart rest with
    | ')' :: rest => .ok (group q, rest)
    | rest => .error ⟨rest, .closingParenthesis⟩

/-- The value of a field: a group, a phrase, a pattern, or else a word. -/
def readValue (operand : Text → Reading Query) (t : Text) : Reading Query :=
  match t with
  | '(' :: rest => readGroup operand rest
  | '"' :: rest => readPhrase rest
  | t =>
    if startsPattern t then readPattern t
    else if leadingWord t = [] then .error ⟨t, .fieldValue⟩
    else .ok (word (leadingWord t), t.drop (leadingWord t).length)

/-- The name of a field at the beginning of a word, and the word after the delimiter. -/
def fieldName? (delimiter : Option Text) (w : Text) : Option (Text × Text) :=
  delimiter.bind fun d => (Text.cut? d w).filter fun (name, _) => name ≠ []

/-- A word, or a field with its value. -/
def readWord (delimiter : Option Text) (operand : Text → Reading Query) (t : Text) :
    Reading Query :=
  let w := leadingWord t
  if w = [] ∨ isKeyword w then .error ⟨t, .term⟩
  else
    match delimiter, fieldName? delimiter w with
    | some d, some (name, _) =>
      (readValue operand (t.drop (name.length + d.length))).map fun (q, rest) =>
        (field name d q, rest)
    | _, _ => .ok (word w, t.drop w.length)

def readPrimary (delimiter : Option Text) (operand : Text → Reading Query) (t : Text) :
    Reading Query :=
  match t with
  | '(' :: rest => readGroup operand rest
  | '"' :: rest => readPhrase rest
  | '/' :: _ => readPattern t
  | t => readWord delimiter operand t

/-- What follows a sign of negation. -/
def negated? (t : Text) : Option Text :=
  match keyword? notWord t with
  | some rest => some (Text.trimStart rest)
  | none =>
    match t with
    | '-' :: rest => if dashNegates rest then some rest else none
    | _ => none

/-- One operand, with at most `depth` groups and negations inside each other, itself included. -/
def readOperand (delimiter : Option Text) : Nat → Text → Reading Query
  | 0, t => .error ⟨t, .shallowerNesting⟩
  | depth + 1, t =>
    match negated? t with
    | some rest =>
      (readOperand delimiter depth rest).map fun (q, rest) => (not q, rest)
    | none => readPrimary delimiter (readOperand delimiter depth) t

def depthLimit : Nat := 256

/-- A whole query. -/
def readAll (delimiter : Option Text) (t : Text) : Except Stop Query :=
  match readOr (readOperand delimiter depthLimit) (Text.trimStart t) with
  | .error stop => .error stop
  | .ok (q, rest) =>
    match Text.trimStart rest with
    | [] => .ok q
    | rest => .error ⟨rest, .endOfInput⟩

/-- The place in the query `t` where reading stopped. -/
def Stop.failure (t : Text) (s : Stop) : Failure :=
  .behind (t.take (t.length - s.rest.length)) s.expected

/-- Reads a query whose fields are written with the given delimiter; `none` switches them off. -/
def parse (delimiter : Option Text) (t : Text) : Except Error Query :=
  match readAll delimiter t with
  | .ok q => .ok q
  | .error stop => .error (.query t [stop.failure t])

end TextSieve.Query
