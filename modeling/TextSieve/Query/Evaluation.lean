import TextSieve.Cache
import TextSieve.Field
import TextSieve.Query.Tree

/-!
Evaluating a query on a text. `eval` decides whether the query holds; a conjunction stops at the
first operand that does not hold and a disjunction at the first that does, so that what follows is
neither compiled nor run. `fragments` lists where the leaves matched, apart from those below a
negation; its spans are places in the whole text, also inside the value of a field.
-/

namespace TextSieve

/-- What an evaluation depends on beside the query and the text. -/
structure Context where
  resolved : Resolved
  extractor : Extractor := taggedFields

/-- A stretch of text that a leaf matched. -/
structure Fragment where
  term : Text
  span : Span
  text : Text
deriving DecidableEq, Repr

namespace Context

def ignoreCase (ctx : Context) : Bool := ctx.resolved.options.ignoreCase

/-- What a leaf is compiled from. -/
def key (ctx : Context) (l : Leaf) : TermKey where
  term := l.text
  asPattern := l.isPattern || ctx.resolved.options.regexp
  fragment := ctx.resolved.fragment

def fetch (ctx : Context) (l : Leaf) : Cached CompiledTerm := do
  return (← Cache.fetch (ctx.key l)).term

/-- The spans of the values of a field. -/
def values (ctx : Context) (text field : Text) : Cached (List Span) :=
  liftExcept (ctx.extractor ctx.resolved text field)

end Context

namespace Query

/-- Whether a test succeeds on one of the slices of a text; the first success ends the search. -/
def anySlice (test : Text → Cached Bool) (text : Text) : List Span → Cached Bool
  | [] => return false
  | s :: rest => do
    if ← test (text.slice s) then return true
    anySlice test text rest

mutual
def eval (ctx : Context) : Query → Text → Cached Bool
  | leaf l, text => do return (← ctx.fetch l).isMatch ctx.ignoreCase text
  | field name _ q, text => do anySlice (eval ctx q) text (← ctx.values text name)
  | not q, text => do return !(← eval ctx q text)
  | and qs, text => evalAll ctx qs text
  | or qs, text => evalAny ctx qs text
  | group q, text => eval ctx q text

def evalAll (ctx : Context) : List Query → Text → Cached Bool
  | [], _ => return true
  | q :: qs, text => do if ← eval ctx q text then evalAll ctx qs text else return false

def evalAny (ctx : Context) : List Query → Text → Cached Bool
  | [], _ => return false
  | q :: qs, text => do if ← eval ctx q text then return true else evalAny ctx qs text
end

/-- The fragments of a leaf in a text that lies at an offset of the whole one. -/
def leafFragments (ctx : Context) (l : Leaf) (text : Text) (offset : Nat) :
    Cached (List Fragment) := do
  let spans := termSpans ((← ctx.fetch l).matcher ctx.ignoreCase) text
  return spans.map fun s => ⟨l.text, ⟨offset + s.start, offset + s.stop⟩, text.slice s⟩

/-- Fragments of the slices of a text, slice after slice. -/
def sliceFragments (find : Text → Nat → Cached (List Fragment)) (text : Text) (offset : Nat) :
    List Span → Cached (List Fragment)
  | [] => return []
  | s :: rest => do
    let here ← find (text.slice s) (offset + s.start)
    return here ++ (← sliceFragments find text offset rest)

mutual
def fragmentsAt (ctx : Context) : Query → Text → Nat → Cached (List Fragment)
  | leaf l, text, offset => leafFragments ctx l text offset
  | field name _ q, text, offset => do
    sliceFragments (fragmentsAt ctx q) text offset (← ctx.values text name)
  | not _, _, _ => return []
  | and qs, text, offset | or qs, text, offset => fragmentsOfAll ctx qs text offset
  | group q, text, offset => fragmentsAt ctx q text offset

def fragmentsOfAll (ctx : Context) : List Query → Text → Nat → Cached (List Fragment)
  | [], _, _ => return []
  | q :: qs, text, offset => do
    let here ← fragmentsAt ctx q text offset
    return here ++ (← fragmentsOfAll ctx qs text offset)
end

/-- Where the leaves outside negations matched, in the order of the leaves. -/
def fragments (ctx : Context) (q : Query) (text : Text) : Cached (List Fragment) :=
  fragmentsAt ctx q text 0

/-- The compiled form of a query that is a leaf. -/
def compile (ctx : Context) : Query → Cached CompiledTerm
  | leaf l => ctx.fetch l
  | q => throw (.other ("only leaf terms compile, got ".toList ++ quoted q.display))

end Query

end TextSieve
