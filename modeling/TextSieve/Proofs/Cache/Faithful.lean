import Mathlib.Tactic.Common
import TextSieve.Session

/-! What a cache cannot change. A cache is faithful if every stored term is what its key compiles
to. A computation is transparent if it keeps caches faithful and its answer is the same on all of
them; asking for the term of a leaf is, and so is everything that evaluation builds from it. -/

namespace TextSieve

/-- Every stored term is what its key compiles to. -/
def Cache.Faithful (c : Cache) : Prop :=
  ∀ e ∈ c.entries, CompiledTerm.compile e.key = .ok e.term

theorem Cache.faithful_empty : Faithful {} := by
  intro e he
  simp at he

variable {α β : Type}

/-- The computation has this answer on every faithful cache, and leaves it faithful. -/
def Gives (act : Cached α) (answer : Except Error α) : Prop :=
  ∀ c : Cache, c.Faithful → (act c).1 = answer ∧ (act c).2.Faithful

def Transparent (act : Cached α) : Prop :=
  ∃ answer, Gives act answer

theorem Cached.bind_apply (act : Cached α) (f : α → Cached β) (c : Cache) :
    (act >>= f) c =
      match act c with
      | (.ok a, c) => f a c
      | (.error e, c) => (.error e, c) := by
  simp only [bind, ExceptT.bind, ExceptT.mk, StateT.bind]
  rcases act c with ⟨_ | _, c'⟩ <;> rfl

theorem gives_pure (a : α) : Gives (pure a) (.ok a) := by
  intro c hc
  exact ⟨rfl, hc⟩

theorem gives_liftExcept (x : Except Error α) : Gives (liftExcept x) x := by
  intro c hc
  cases x with
  | ok a => exact ⟨rfl, hc⟩
  | error e => exact ⟨rfl, hc⟩

theorem Gives.bind_ok {act : Cached α} {f : α → Cached β} {a : α} {b : Except Error β}
    (h : Gives act (.ok a)) (hf : Gives (f a) b) : Gives (act >>= f) b := by
  intro c hc
  obtain ⟨ha, hc'⟩ := h c hc
  rw [Cached.bind_apply, show act c = (.ok a, (act c).2) from Prod.ext ha rfl]
  exact hf _ hc'

theorem Gives.bind_error {act : Cached α} {f : α → Cached β} {e : Error}
    (h : Gives act (.error e)) : Gives (act >>= f) (.error e) := by
  intro c hc
  obtain ⟨ha, hc'⟩ := h c hc
  rw [Cached.bind_apply, show act c = (.error e, (act c).2) from Prod.ext ha rfl]
  exact ⟨rfl, hc'⟩

theorem Gives.transparent {act : Cached α} {answer : Except Error α} (h : Gives act answer) :
    Transparent act := ⟨answer, h⟩

theorem transparent_pure (a : α) : Transparent (pure a) := (gives_pure a).transparent

theorem transparent_liftExcept (x : Except Error α) : Transparent (liftExcept x) :=
  (gives_liftExcept x).transparent

theorem Transparent.bind {act : Cached α} {f : α → Cached β} (h : Transparent act)
    (hf : ∀ a, Transparent (f a)) : Transparent (act >>= f) := by
  obtain ⟨a | a, ha⟩ := h
  · exact ha.bind_error.transparent
  · obtain ⟨b, hb⟩ := hf a
    exact (ha.bind_ok hb).transparent

theorem Gives.unique {act : Cached α} {x y : Except Error α} (h : Gives act x) (h' : Gives act y) :
    x = y :=
  (h {} Cache.faithful_empty).1.symm.trans (h' {} Cache.faithful_empty).1

theorem Transparent.gives {act : Cached α} (h : Transparent act) {c : Cache} (hc : c.Faithful)
    {x : Except Error α} (hx : (act c).1 = x) : Gives act x := by
  obtain ⟨y, hy⟩ := h
  obtain rfl : y = x := (hy c hc).1.symm.trans hx
  exact hy

/-- Both halves of a computation that succeeds do. -/
theorem Gives.exists_of_bind {act : Cached α} {f : α → Cached β} {b : β}
    (h : Gives (act >>= f) (.ok b)) (hact : Transparent act) (hf : ∀ a, Transparent (f a)) :
    ∃ a, Gives act (.ok a) ∧ Gives (f a) (.ok b) := by
  obtain ⟨e | a, ha⟩ := hact
  · cases h.unique ha.bind_error
  · obtain ⟨x, hx⟩ := hf a
    obtain rfl := h.unique (ha.bind_ok hx)
    exact ⟨a, ha, hx⟩

theorem gives_and {act act' : Cached Bool} {b b' : Bool} (h : Gives act (.ok b))
    (h' : Gives act' (.ok b')) :
    Gives (do if ← act then act' else return false) (.ok (b && b')) := by
  refine h.bind_ok ?_
  cases b with
  | true => exact h'
  | false => exact gives_pure false

theorem gives_or {act act' : Cached Bool} {b b' : Bool} (h : Gives act (.ok b))
    (h' : Gives act' (.ok b')) :
    Gives (do if ← act then return true else act') (.ok (b || b')) := by
  refine h.bind_ok ?_
  cases b with
  | true => exact gives_pure true
  | false => exact h'

theorem Transparent.ite {p : Prop} [Decidable p] {act act' : Cached α} (h : Transparent act)
    (h' : Transparent act') : Transparent (if p then act else act') := by
  split
  · exact h
  · exact h'

theorem Cache.mem_of_find? {c : Cache} {k : TermKey} {e : Entry} (h : c.find? k = some e) :
    e ∈ c.entries ∧ e.key = k :=
  ⟨List.mem_of_find?_eq_some h, by simpa using List.find?_some h⟩

theorem Cache.Faithful.store {c : Cache} (hc : c.Faithful) {k : TermKey} {t : CompiledTerm}
    (ht : CompiledTerm.compile k = .ok t) : (c.store k t).2.Faithful := by
  intro e he
  rcases List.mem_cons.1 he with rfl | he
  · exact ht
  · exact hc e he

/-- A stored term is the one that its key compiles to, and a term that is not stored is compiled. -/
theorem Context.gives_fetch (ctx : Context) (l : Leaf) :
    Gives (ctx.fetch l) (CompiledTerm.compile (ctx.key l)) := by
  intro c hc
  unfold Context.fetch
  rw [Cached.bind_apply]
  cases hfind : c.find? (ctx.key l) with
  | some e =>
    obtain ⟨he, hk⟩ := Cache.mem_of_find? hfind
    rw [Cache.fetch_of_find? hfind, ← hk, hc e he]
    exact ⟨rfl, hc⟩
  | none =>
    cases hcompile : CompiledTerm.compile (ctx.key l) with
    | error e =>
      rw [Cache.fetch_of_error hfind hcompile]
      exact ⟨rfl, hc⟩
    | ok t =>
      simp only [Cache.fetch, hfind, hcompile]
      exact ⟨rfl, hc.store hcompile⟩

theorem Context.transparent_fetch (ctx : Context) (l : Leaf) : Transparent (ctx.fetch l) :=
  (ctx.gives_fetch l).transparent

section

variable {ctx : Context} {l : Leaf} {t : CompiledTerm}
  (h : CompiledTerm.compile (ctx.key l) = .ok t)

include h

/-- A leaf whose term compiles is evaluated by matching it. -/
theorem gives_eval_leaf (text : Text) :
    Gives (Query.eval ctx (.leaf l) text) (.ok (t.isMatch ctx.ignoreCase text)) := by
  have hfetch := ctx.gives_fetch l
  rw [h] at hfetch
  rw [Query.eval]
  exact hfetch.bind_ok (gives_pure _)

/-- The fragments of a leaf whose term compiles are the spans of the term. -/
theorem gives_fragments_leaf (text : Text) :
    Gives (Query.fragments ctx (.leaf l) text)
      (.ok ((termSpans (t.matcher ctx.ignoreCase) text).map
        fun s => ⟨l.text, s, text.slice s⟩)) := by
  have hfetch := ctx.gives_fetch l
  rw [h] at hfetch
  have hshifted : Gives (Query.fragments ctx (.leaf l) text)
      (.ok ((termSpans (t.matcher ctx.ignoreCase) text).map
        fun s => ⟨l.text, ⟨0 + s.start, 0 + s.stop⟩, text.slice s⟩)) := by
    rw [Query.fragments, Query.fragmentsAt]
    exact hfetch.bind_ok (gives_pure _)
  simpa only [Nat.zero_add] using hshifted

end

/-- A leaf whose term does not compile is not evaluated. -/
theorem gives_eval_leaf_error {ctx : Context} {l : Leaf} {e : Error}
    (h : CompiledTerm.compile (ctx.key l) = .error e) (text : Text) :
    Gives (Query.eval ctx (.leaf l) text) (.error e) := by
  have hfetch := ctx.gives_fetch l
  rw [h] at hfetch
  rw [Query.eval]
  exact hfetch.bind_error

namespace Query

theorem transparent_anySlice {test : Text → Cached Bool} (h : ∀ t, Transparent (test t))
    (text : Text) (spans : List Span) : Transparent (anySlice test text spans) := by
  induction spans with
  | nil => exact transparent_pure false
  | cons s rest ih =>
    refine (h _).bind fun _ => ?_
    exact .ite (transparent_pure true) ih

mutual
theorem transparent_eval (ctx : Context) (q : Query) (text : Text) :
    Transparent (eval ctx q text) := by
  cases q with
  | leaf l =>
    refine (ctx.transparent_fetch l).bind fun t => ?_
    exact transparent_pure (t.isMatch ctx.ignoreCase text)
  | field name d q =>
    refine (transparent_liftExcept _).bind fun spans => ?_
    exact transparent_anySlice (fun t => transparent_eval ctx q t) text spans
  | not q =>
    refine (transparent_eval ctx q text).bind fun b => ?_
    exact transparent_pure (!b)
  | and qs => exact transparent_evalAll ctx qs text
  | or qs => exact transparent_evalAny ctx qs text
  | group q => exact transparent_eval ctx q text

theorem transparent_evalAll (ctx : Context) (qs : List Query) (text : Text) :
    Transparent (evalAll ctx qs text) := by
  cases qs with
  | nil => exact transparent_pure true
  | cons q qs =>
    refine (transparent_eval ctx q text).bind fun _ => ?_
    exact .ite (transparent_evalAll ctx qs text) (transparent_pure false)

theorem transparent_evalAny (ctx : Context) (qs : List Query) (text : Text) :
    Transparent (evalAny ctx qs text) := by
  cases qs with
  | nil => exact transparent_pure false
  | cons q qs =>
    refine (transparent_eval ctx q text).bind fun _ => ?_
    exact .ite (transparent_pure true) (transparent_evalAny ctx qs text)
end

theorem transparent_sliceFragments {find : Text → Nat → Cached (List Fragment)}
    (h : ∀ t n, Transparent (find t n)) (text : Text) (offset : Nat) (spans : List Span) :
    Transparent (sliceFragments find text offset spans) := by
  induction spans with
  | nil => exact transparent_pure []
  | cons s rest ih =>
    refine (h _ _).bind fun here => ih.bind fun there => ?_
    exact transparent_pure (here ++ there)

mutual
theorem transparent_fragmentsAt (ctx : Context) (q : Query) (text : Text) (offset : Nat) :
    Transparent (fragmentsAt ctx q text offset) := by
  cases q with
  | leaf l =>
    refine (ctx.transparent_fetch l).bind fun t => ?_
    exact transparent_pure _
  | field name d q =>
    refine (transparent_liftExcept _).bind fun spans => ?_
    exact transparent_sliceFragments (fun t n => transparent_fragmentsAt ctx q t n) text offset
      spans
  | not q => exact transparent_pure []
  | and qs => exact transparent_fragmentsOfAll ctx qs text offset
  | or qs => exact transparent_fragmentsOfAll ctx qs text offset
  | group q => exact transparent_fragmentsAt ctx q text offset

theorem transparent_fragmentsOfAll (ctx : Context) (qs : List Query) (text : Text) (offset : Nat) :
    Transparent (fragmentsOfAll ctx qs text offset) := by
  cases qs with
  | nil => exact transparent_pure []
  | cons q qs =>
    refine (transparent_fragmentsAt ctx q text offset).bind fun here => ?_
    refine (transparent_fragmentsOfAll ctx qs text offset).bind fun there => ?_
    exact transparent_pure (here ++ there)
end

end Query

theorem Session.transparent_compileLeaf (ctx : Context) (l : Leaf) :
    Transparent (compileLeaf ctx l) := by
  refine ⟨.ok (l, CompiledTerm.compile (ctx.key l)), fun c hc => ?_⟩
  obtain ⟨ha, hc'⟩ := ctx.gives_fetch l c hc
  unfold compileLeaf
  rw [show (ctx.fetch l).run c = (CompiledTerm.compile (ctx.key l), (ctx.fetch l c).2) from
    Prod.ext ha rfl]
  exact ⟨rfl, hc'⟩

theorem transparent_mapM {act : α → Cached β} (h : ∀ a, Transparent (act a)) (as : List α) :
    Transparent (as.mapM act) := by
  induction as with
  | nil => exact transparent_pure []
  | cons a as ih =>
    rw [List.mapM_cons]
    refine (h a).bind fun b => ih.bind fun bs => ?_
    exact transparent_pure (b :: bs)

end TextSieve
