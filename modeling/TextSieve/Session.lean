import TextSieve.Query.Evaluation
import TextSieve.Query.Parse

/-!
A query in use: it is read once and evaluated on many texts. The options can be changed for good or
for one evaluation, and a query that cannot be read leaves the one before it in place.
-/

namespace TextSieve

structure Session where
  root : Option Query := none
  resolved : Resolved
  /-- Where the latest query could not be read; empty if it could. -/
  failures : List Failure := []
deriving DecidableEq, Repr

namespace Session

/-- A session without a query. -/
def start (o : Options) : Except Error Session :=
  o.resolve.map fun r => { resolved := r }

/-- Reads a query under the current options. -/
def parse (s : Session) (query : Text) : Except Error Unit × Session :=
  match Query.parse s.resolved.options.activeAttributeDelimiter query with
  | .ok q => (.ok (), { s with root := some q, failures := [] })
  | .error e => (.error e, { s with failures := e.failures })

/-- A session with a query; the empty query is not read. -/
def withQuery (query : Text) (o : Options) : Except Error Session :=
  match start o with
  | .error e => .error e
  | .ok s =>
    if query = [] then .ok s
    else
      match s.parse query with
      | (.ok (), s) => .ok s
      | (.error e, _) => .error e

def isParsed (s : Session) : Bool := s.root.isSome

/-- Changes the options; options that cannot be resolved change nothing. -/
def setOptions (s : Session) (new : Override) : Except Error Unit × Session :=
  match s.resolved.merge new with
  | .ok r => (.ok (), { s with resolved := r })
  | .error e => (.error e, s)

def query (s : Session) : Except Error Query :=
  match s.root with
  | some q => .ok q
  | none => .error .noQuery

def context (s : Session) (extractor : Extractor) : Context :=
  ⟨s.resolved, extractor⟩

def eval (s : Session) (extractor : Extractor) (text : Text) : Cached Bool := do
  (← liftExcept s.query).eval (s.context extractor) text

/-- Evaluates under changed options, which the session does not keep. -/
def evalWith (s : Session) (extractor : Extractor) (text : Text) (new : Override) :
    Cached Bool := do
  let r ← liftExcept (s.resolved.merge new)
  (← liftExcept s.query).eval ⟨r, extractor⟩ text

def fragments (s : Session) (extractor : Extractor) (text : Text) : Cached (List Fragment) := do
  (← liftExcept s.query).fragments (s.context extractor) text

def terms (s : Session) : Except Error (List Text) :=
  s.query.map Query.terms

/-- The terms of the query, once the changed options have been found to resolve. -/
def termsWith (s : Session) (new : Override) : Except Error (List Text) := do
  let q ← s.query
  let _ ← s.resolved.merge new
  return q.terms

/-- Compiles one leaf and reports how it went instead of stopping. -/
def compileLeaf (ctx : Context) (l : Leaf) : Cached (Leaf × Except Error CompiledTerm) := fun c =>
  match (ctx.fetch l).run c with
  | (answer, c) => (.ok (l, answer), c)

/-- Every leaf of the query with its compiled form or the error. -/
def compileTerms (s : Session) : Cached (List (Leaf × Except Error CompiledTerm)) := do
  (← liftExcept s.query).leaves.mapM (compileLeaf (s.context taggedFields))

end Session

end TextSieve
