import Mathlib.Tactic.Common
import TextSieve.Proofs.Cache.Faithful

/-! The laws of evaluation. An evaluation is a computation on caches: two are equal if from every
cache they give the same answer or the same error and leave the same cache behind, its counters
included. So the laws of negation, joining and grouping say that a query may be rewritten in any
place without anyone noticing. -/

namespace TextSieve.Query

variable {ctx : Context} {text : Text}

theorem evalAll_append (xs ys : List Query) :
    evalAll ctx (xs ++ ys) text =
      (do if ← evalAll ctx xs text then evalAll ctx ys text else return false) := by
  induction xs with
  | nil => simp [evalAll]
  | cons x xs ih =>
    simp only [List.cons_append, evalAll, ih, bind_assoc]
    refine bind_congr fun b => ?_
    cases b <;> simp

theorem evalAny_append (xs ys : List Query) :
    evalAny ctx (xs ++ ys) text =
      (do if ← evalAny ctx xs text then return true else (evalAny ctx ys text)) := by
  induction xs with
  | nil => simp [evalAny]
  | cons x xs ih =>
    simp only [List.cons_append, evalAny, ih, bind_assoc]
    refine bind_congr fun b => ?_
    cases b <;> simp

theorem evalAll_and (ys : List Query) : evalAll ctx [and ys] text = evalAll ctx ys text := by
  simp only [evalAll, eval]
  conv_rhs => rw [← bind_pure (evalAll ctx ys text)]
  refine bind_congr fun b => ?_
  cases b <;> rfl

theorem evalAny_or (ys : List Query) : evalAny ctx [or ys] text = evalAny ctx ys text := by
  simp only [evalAny, eval]
  conv_rhs => rw [← bind_pure (evalAny ctx ys text)]
  refine bind_congr fun b => ?_
  cases b <;> rfl

theorem eval_and_flatten (xs ys zs : List Query) :
    eval ctx (and (xs ++ [and ys] ++ zs)) = eval ctx (and (xs ++ ys ++ zs)) := by
  funext text
  simp only [eval, evalAll_append, evalAll_and]

theorem eval_or_flatten (xs ys zs : List Query) :
    eval ctx (or (xs ++ [or ys] ++ zs)) = eval ctx (or (xs ++ ys ++ zs)) := by
  funext text
  simp only [eval, evalAny_append, evalAny_or]

theorem eval_not_not (q : Query) : eval ctx (not (not q)) = eval ctx q := by
  funext text
  simp [eval]

/-- A disjunction of negations stops where the conjunction does. -/
theorem evalAny_map_not (xs : List Query) :
    evalAny ctx (xs.map not) text = (do return !(← evalAll ctx xs text)) := by
  induction xs with
  | nil => simp [evalAny, evalAll]
  | cons x xs ih =>
    simp only [List.map_cons, evalAny, evalAll, eval, ih, bind_assoc, pure_bind]
    refine bind_congr fun b => ?_
    cases b <;> simp

theorem evalAll_map_not (xs : List Query) :
    evalAll ctx (xs.map not) text = (do return !(← evalAny ctx xs text)) := by
  induction xs with
  | nil => simp [evalAny, evalAll]
  | cons x xs ih =>
    simp only [List.map_cons, evalAny, evalAll, eval, ih, bind_assoc, pure_bind]
    refine bind_congr fun b => ?_
    cases b <;> simp

theorem eval_not_and (xs : List Query) : eval ctx (not (and xs)) = eval ctx (or (xs.map not)) := by
  funext text
  simp only [eval, evalAny_map_not]

theorem eval_not_or (xs : List Query) : eval ctx (not (or xs)) = eval ctx (and (xs.map not)) := by
  funext text
  simp only [eval, evalAll_map_not]

inductive Around
  | here
  | field (name attributeDelimiter : Text) (inner : Around)
  | not (child : Around)
  | and (before : List Query) (child : Around) (after : List Query)
  | or (before : List Query) (child : Around) (after : List Query)
  | group (child : Around)

namespace Around

def fill : Around → Query → Query
  | here, q => q
  | field name d a, q => .field name d (a.fill q)
  | not a, q => .not (a.fill q)
  | and before a after, q => .and (before ++ a.fill q :: after)
  | or before a after, q => .or (before ++ a.fill q :: after)
  | group a, q => .group (a.fill q)

/-- Queries that are evaluated alike are so in every place. -/
theorem eval_fill {p q : Query} (h : eval ctx p = eval ctx q) (a : Around) :
    eval ctx (a.fill p) = eval ctx (a.fill q) := by
  induction a with
  | here => exact h
  | field name d a ih =>
    funext text
    simp only [fill, eval, ih]
  | not a ih =>
    funext text
    simp only [fill, eval, ih]
  | and before a after ih =>
    funext text
    simp only [fill, eval, evalAll_append, evalAll, ih]
  | or before a after ih =>
    funext text
    simp only [fill, eval, evalAny_append, evalAny, ih]
  | group a ih =>
    funext text
    simp only [fill, eval, ih]

end Around

/-- The queries answer `b` one after the other, which takes the first cache to the second. -/
def InTurn (ctx : Context) (text : Text) (b : Bool) : List Query → Cache → Cache → Prop
  | [], c, c' => c' = c
  | q :: qs, c, c' => ∃ m, eval ctx q text c = (.ok b, m) ∧ InTurn ctx text b qs m c'

/-- An operand behind which nothing is evaluated: it is false or fails. -/
theorem evalAll_of_stop {q : Query} {c : Cache} (h : (eval ctx q text c).1 ≠ .ok true)
    (rest : List Query) : evalAll ctx (q :: rest) text c = eval ctx q text c := by
  rw [evalAll, Cached.bind_apply]
  rcases hq : eval ctx q text c with ⟨e | b, c'⟩
  · rfl
  · cases b with
    | false => rfl
    | true => exact absurd (congrArg Prod.fst hq) h

theorem evalAny_of_stop {q : Query} {c : Cache} (h : (eval ctx q text c).1 ≠ .ok false)
    (rest : List Query) : evalAny ctx (q :: rest) text c = eval ctx q text c := by
  rw [evalAny, Cached.bind_apply]
  rcases hq : eval ctx q text c with ⟨e | b, c'⟩
  · rfl
  · cases b with
    | false => exact absurd (congrArg Prod.fst hq) h
    | true => rfl

/-- Operands that are all true lead to those behind them. -/
theorem evalAll_append_of_inTurn {xs ys : List Query} {c c' : Cache}
    (h : InTurn ctx text true xs c c') :
    evalAll ctx (xs ++ ys) text c = evalAll ctx ys text c' := by
  induction xs generalizing c with
  | nil =>
    obtain rfl : c' = c := h
    rfl
  | cons x xs ih =>
    obtain ⟨m, hx, hxs⟩ := h
    rw [List.cons_append, evalAll, Cached.bind_apply, hx]
    exact ih hxs

theorem evalAny_append_of_inTurn {xs ys : List Query} {c c' : Cache}
    (h : InTurn ctx text false xs c c') :
    evalAny ctx (xs ++ ys) text c = evalAny ctx ys text c' := by
  induction xs generalizing c with
  | nil =>
    obtain rfl : c' = c := h
    rfl
  | cons x xs ih =>
    obtain ⟨m, hx, hxs⟩ := h
    rw [List.cons_append, evalAny, Cached.bind_apply, hx]
    exact ih hxs

/-- In every place of a query negations can be moved to the operands, operands of the same kind
joined, and groups and double negations left out; and what stands behind the first operand that is
not true in a conjunction, or not false in a disjunction, does not count. -/
theorem eval_laws (ctx : Context) :
    (∀ (a : Around) (xs ys zs : List Query) (q : Query),
      eval ctx (a.fill (not (and xs))) = eval ctx (a.fill (or (xs.map not))) ∧
      eval ctx (a.fill (not (or xs))) = eval ctx (a.fill (and (xs.map not))) ∧
      eval ctx (a.fill (and (xs ++ [and ys] ++ zs))) = eval ctx (a.fill (and (xs ++ ys ++ zs))) ∧
      eval ctx (a.fill (or (xs ++ [or ys] ++ zs))) = eval ctx (a.fill (or (xs ++ ys ++ zs))) ∧
      eval ctx (a.fill (group q)) = eval ctx (a.fill q) ∧
      eval ctx (a.fill (not (not q))) = eval ctx (a.fill q)) ∧
    ∀ (text : Text) (xs : List Query) (q : Query) (c c' : Cache),
      (InTurn ctx text true xs c c' → (eval ctx q text c').1 ≠ .ok true →
        ∀ rest, eval ctx (and (xs ++ q :: rest)) text c = eval ctx q text c') ∧
      (InTurn ctx text false xs c c' → (eval ctx q text c').1 ≠ .ok false →
        ∀ rest, eval ctx (or (xs ++ q :: rest)) text c = eval ctx q text c') := by
  constructor
  · intro a xs ys zs q
    have hgroup : eval ctx (group q) = eval ctx q := by
      funext text
      rw [eval]
    exact ⟨a.eval_fill (eval_not_and xs), a.eval_fill (eval_not_or xs),
      a.eval_fill (eval_and_flatten xs ys zs), a.eval_fill (eval_or_flatten xs ys zs),
      a.eval_fill hgroup, a.eval_fill (eval_not_not q)⟩
  · intro text xs q c c'
    constructor
    · intro hxs hq rest
      rw [eval, evalAll_append_of_inTurn hxs, evalAll_of_stop hq]
    · intro hxs hq rest
      rw [eval, evalAny_append_of_inTurn hxs, evalAny_of_stop hq]

/-- Behind a term that does not compile, and behind one that matches, nothing is compiled. -/
theorem eval_laws_unclosed :
    ∃ r, ({} : Options).resolve = .ok r ∧
      let ctx : Context := { resolved := r }
      ∃ c : Cache, c.compilations = 1 ∧
        eval ctx (and [word ['a'], pattern ['('], word ['b']]) ['a'] {} =
          (.error (.pattern (.term ['('])), c) ∧
        eval ctx (or [word ['a'], pattern ['(']]) ['a'] {} = (.ok true, c) := by
  let r : Resolved := ⟨{}, Delimiter.choice [Pattern.escape [' ']]⟩
  have hanswer : (eval { resolved := r } (word ['a']) ['a'] {}).1 = .ok true := by decide +kernel
  have hrun : ∃ c : Cache, c.compilations = 1 ∧
      eval { resolved := r } (word ['a']) ['a'] {} = (.ok true, c) ∧
      eval { resolved := r } (pattern ['(']) ['a'] c = (.error (.pattern (.term ['('])), c) := by
    refine ⟨(eval { resolved := r } (word ['a']) ['a'] {}).2, by decide +kernel, ?_,
      Prod.ext (by decide +kernel) (by decide +kernel)⟩
    exact hanswer ▸ (Prod.eta _).symm
  obtain ⟨c, hcount, hword, hpattern⟩ := hrun
  obtain ⟨-, hstop⟩ := eval_laws { resolved := r }
  obtain ⟨hand, -⟩ := hstop ['a'] [word ['a']] (pattern ['(']) {} c
  obtain ⟨-, hor⟩ := hstop ['a'] [] (word ['a']) {} {}
  refine ⟨r, rfl, c, hcount, ?_, ?_⟩
  · rw [← hpattern]
    exact hand ⟨c, hword, rfl⟩ (by simp [hpattern]) [word ['b']]
  · rw [← hword]
    exact hor rfl (by simp [hword]) [pattern ['(']]

end TextSieve.Query
