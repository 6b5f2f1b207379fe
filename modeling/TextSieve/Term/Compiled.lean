import TextSieve.Pattern.Matching
import TextSieve.Pattern.Reader
import TextSieve.Term.Fuzzy

/-!
Compiled terms. A term is anchored between delimiters or the ends of the text; the part of a match
that belongs to the term itself is the group `term`.
-/

namespace TextSieve

/-- The name of the group around the term. -/
def termGroup : Text := ['t', 'e', 'r', 'm']

/-- A body with a delimiter or the start of the text before it and a delimiter or the end of the
text behind it. -/
def anchored (body fragment : Text) : Text :=
  ['(', '?', ':', '^', '|'] ++ fragment ++ [')', '(', '?', 'P', '<'] ++ termGroup ++ ['>'] ++
    body ++ [')', '(', '?', ':'] ++ fragment ++ ['|', '$', ')']

/-- Everything that a compiled term depends on. -/
structure TermKey where
  term : Text
  /-- Whether the core is a pattern. -/
  asPattern : Bool
  fragment : Text
deriving DecidableEq, Repr

structure CompiledTerm where
  pattern : Text
  exact : Pattern.Regex
  caseless : Pattern.Regex
deriving DecidableEq, Repr

namespace CompiledTerm

/-- The anchored pattern of a term, compiled for both case modes. -/
def compile (k : TermKey) : Except Error CompiledTerm :=
  match FuzzyTerm.parse k.term with
  | .error e => .error e
  | .ok fuzzy =>
    let pattern := anchored (fuzzy.body k.asPattern) k.fragment
    match Pattern.Regex.ofPattern? false pattern, Pattern.Regex.ofPattern? true pattern with
    | some exact, some caseless => .ok ⟨pattern, exact, caseless⟩
    | _, _ => .error (.pattern (.term k.term))

def matcher (t : CompiledTerm) (ignoreCase : Bool) : Pattern.Regex :=
  if ignoreCase then t.caseless else t.exact

def isMatch (t : CompiledTerm) (ignoreCase : Bool) (text : Text) : Bool :=
  (t.matcher ignoreCase).isMatch text

end CompiledTerm

/-- The spans of the term, the next search starting from the cursor. After an empty one the search
goes on behind the next character. -/
def termSpansFrom (r : Pattern.Regex) : Nat → Pattern.Cursor → List Span
  | 0, _ => []
  | n + 1, k =>
    match (r.search k).bind (·.group? termGroup) with
    | none => []
    | some span =>
      span ::
        if k.offset < span.stop then termSpansFrom r n (k.moveTo span.stop)
        else
          match k.rest with
          | [] => []
          | c :: rest => termSpansFrom r n (k.past c rest)

/-- All spans of the term in a text. Each search starts where the last span ended, so that the
delimiter behind one span can stand before the next. -/
def termSpans (r : Pattern.Regex) (t : Text) : List Span :=
  termSpansFrom r (t.length + 1) (Pattern.Cursor.start t)

end TextSieve
