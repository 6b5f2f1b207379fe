import TextSieve.Proofs.Cache.Accounts
import TextSieve.Proofs.Session.Shared

/-! What is asked of a cache. All that a computation does to a cache is to ask for the terms of some
keys, one after the other; evaluation and the search for fragments ask for keys of leaves of their
query. So the caches that there can be are those that requests leave of a new one, and a computation
whose keys have all been asked for before compiles nothing more. -/

namespace TextSieve

variable {α β : Type}

namespace Cache

variable {c : Cache} {k : TermKey}

theorem requests_append (c : Cache) (ks ks' : List TermKey) :
    (c.requests (ks ++ ks')).2 = ((c.requests ks).2.requests ks').2 := by
  induction ks generalizing c with
  | nil => rfl
  | cons k ks ih => exact ih (fetch k c).2

def Reached (c : Cache) : Prop :=
  ∃ ks, c = (requests {} ks).2

theorem Reached.faithful (h : c.Reached) : c.Faithful := by
  obtain ⟨ks, rfl⟩ := h
  exact (recorded_empty.requests ks).faithful

theorem Reached.requests (h : c.Reached) (ks : List TermKey) : (c.requests ks).2.Reached := by
  obtain ⟨ks₀, rfl⟩ := h
  exact ⟨ks₀ ++ ks, (requests_append {} ks₀ ks).symm⟩

/-- The term of the key is in the cache, unless it does not compile. -/
def Settles (c : Cache) (k : TermKey) : Prop :=
  (CompiledTerm.compile k).isOk = true → ∃ a ∈ c.entries, a.key = k

/-- What is stored stays stored, and what is new has the key that was asked for. -/
theorem mem_entries_fetch (c : Cache) (k : TermKey) :
    (∀ a ∈ c.entries, a ∈ (fetch k c).2.entries) ∧
      ∀ a ∈ (fetch k c).2.entries, a ∈ c.entries ∨ a.key = k := by
  rcases fetch_cases c k with ⟨a, -, -, hfetch⟩ | ⟨-, t, -, hfetch⟩ | ⟨e, -, hfetch⟩
  · rw [hfetch]
    exact ⟨fun _ => id, fun _ => .inl⟩
  · rw [hfetch]
    refine ⟨fun a ha => List.mem_cons_of_mem _ ha, fun a ha => ?_⟩
    rcases List.mem_cons.1 ha with rfl | ha
    · exact .inr rfl
    · exact .inl ha
  · rw [hfetch]
    exact ⟨fun _ => id, fun _ => .inl⟩

theorem mem_entries_requests (c : Cache) (ks : List TermKey) :
    (∀ a ∈ c.entries, a ∈ (c.requests ks).2.entries) ∧
      ∀ a ∈ (c.requests ks).2.entries, a ∈ c.entries ∨ a.key ∈ ks := by
  induction ks generalizing c with
  | nil => exact ⟨fun _ => id, fun _ => .inl⟩
  | cons k ks ih =>
    obtain ⟨hkept, hnew⟩ := mem_entries_fetch c k
    obtain ⟨hkept', hnew'⟩ := ih (fetch k c).2
    refine ⟨fun a ha => hkept' a (hkept a ha), fun a ha => ?_⟩
    rcases hnew' a ha with ha | ha
    · exact (hnew a ha).imp_right fun hk => by simp [hk]
    · exact .inr (List.mem_cons_of_mem k ha)

theorem Settles.requests {k : TermKey} (h : c.Settles k) (ks : List TermKey) :
    (c.requests ks).2.Settles k := by
  intro hk
  obtain ⟨a, ha, hkey⟩ := h hk
  exact ⟨a, (mem_entries_requests c ks).1 a ha, hkey⟩

theorem settles_fetch (c : Cache) (k : TermKey) : (fetch k c).2.Settles k := by
  intro hk
  rcases fetch_cases c k with ⟨a, ha, hkey, hfetch⟩ | ⟨-, t, -, hfetch⟩ | ⟨e, he, -⟩
  · rw [hfetch]
    exact ⟨a, ha, hkey⟩
  · rw [hfetch]
    exact ⟨_, List.mem_cons_self, rfl⟩
  · rw [he] at hk
    cases hk

/-- Whatever was asked for is settled from then on. -/
theorem settles_requests (c : Cache) (ks : List TermKey) :
    ∀ k ∈ ks, (c.requests ks).2.Settles k := by
  induction ks generalizing c with
  | nil => simp
  | cons k ks ih =>
    exact List.forall_mem_cons.2 ⟨(settles_fetch c k).requests ks, ih (fetch k c).2⟩

/-- To ask for a settled key compiles and stores nothing. -/
theorem fetch_of_settles (h : c.Settles k) :
    (fetch k c).2.entries = c.entries ∧ (fetch k c).2.compilations = c.compilations := by
  rcases fetch_cases c k with ⟨a, -, -, hfetch⟩ | ⟨hnone, t, ht, -⟩ | ⟨e, -, hfetch⟩
  · rw [hfetch]
    exact ⟨rfl, rfl⟩
  · obtain ⟨a, ha, hkey⟩ := h (by rw [ht]; rfl)
    exact absurd hkey (key_ne_of_find? hnone a ha)
  · rw [hfetch]
    exact ⟨rfl, rfl⟩

theorem requests_of_settles {ks : List TermKey} (h : ∀ k ∈ ks, c.Settles k) :
    (c.requests ks).2.entries = c.entries ∧ (c.requests ks).2.compilations = c.compilations := by
  induction ks generalizing c with
  | nil => exact ⟨rfl, rfl⟩
  | cons k ks ih =>
    obtain ⟨hk, hks⟩ := List.forall_mem_cons.1 h
    obtain ⟨hentries, hcompilations⟩ := fetch_of_settles hk
    obtain ⟨hentries', hcompilations'⟩ :=
      ih (c := (fetch k c).2) fun k' hk' => by
        unfold Settles
        rw [hentries]
        exact hks k' hk'
    exact ⟨hentries'.trans hentries, hcompilations'.trans hcompilations⟩

end Cache

/-- All that the computation does to a cache is to ask for terms of such keys. -/
def Asks (p : TermKey → Prop) (act : Cached α) : Prop :=
  ∀ c : Cache, ∃ ks : List TermKey, (∀ k ∈ ks, p k) ∧ (act c).2 = (c.requests ks).2

variable {p : TermKey → Prop} {act : Cached α}

theorem asks_pure (a : α) : Asks p (pure a) :=
  fun _ => ⟨[], List.forall_mem_nil _, rfl⟩

theorem asks_liftExcept (x : Except Error α) : Asks p (liftExcept x) := by
  intro c
  refine ⟨[], List.forall_mem_nil _, ?_⟩
  cases x with
  | ok a => rfl
  | error e => rfl

theorem asks_fetch {k : TermKey} (hk : p k) : Asks p (Cache.fetch k) :=
  fun _ => ⟨[k], by simpa using hk, rfl⟩

theorem Asks.bind {f : α → Cached β} (h : Asks p act) (hf : ∀ a, Asks p (f a)) :
    Asks p (act >>= f) := by
  intro c
  obtain ⟨ks, hks, hc⟩ := h c
  rw [Cached.bind_apply]
  rcases hact : act c with ⟨_ | a, c'⟩
  · exact ⟨ks, hks, by rw [← hc, hact]⟩
  · obtain ⟨ks', hks', hc'⟩ := hf a c'
    refine ⟨ks ++ ks', List.forall_mem_append.2 ⟨hks, hks'⟩, ?_⟩
    obtain rfl : c' = (c.requests ks).2 := by rw [← hc, hact]
    rw [Cache.requests_append]
    exact hc'

theorem Asks.ite {q : Prop} [Decidable q] {act' : Cached α} (h : Asks p act) (h' : Asks p act') :
    Asks p (if q then act else act') := by
  split
  · exact h
  · exact h'

theorem Asks.mapM {act : α → Cached β} (h : ∀ a, Asks p (act a)) (as : List α) :
    Asks p (as.mapM act) := by
  induction as with
  | nil => exact asks_pure []
  | cons a as ih =>
    rw [List.mapM_cons]
    exact (h a).bind fun b => ih.bind fun bs => asks_pure (b :: bs)

theorem Asks.reached (h : Asks p act) {c : Cache} (hc : c.Reached) : (act c).2.Reached := by
  obtain ⟨ks, -, hact⟩ := h c
  rw [hact]
  exact hc.requests ks

/-- What is new in the cache has one of the keys. -/
theorem Asks.mem_entries (h : Asks p act) (c : Cache) :
    ∀ a ∈ (act c).2.entries, a ∈ c.entries ∨ p a.key := by
  obtain ⟨ks, hks, hact⟩ := h c
  rw [hact]
  intro a ha
  exact ((Cache.mem_entries_requests c ks).2 a ha).imp_right (hks a.key)

/-- On a cache in which all keys are settled nothing is compiled. -/
theorem Asks.compilations_eq (h : Asks p act) {c : Cache} (hc : ∀ k, p k → c.Settles k) :
    (act c).2.entries = c.entries ∧ (act c).2.compilations = c.compilations := by
  obtain ⟨ks, hks, hact⟩ := h c
  rw [hact]
  exact Cache.requests_of_settles fun k hk => hc k (hks k hk)

namespace Query

variable {ctx : Context}

theorem asks_contextFetch {l : Leaf} (h : p (ctx.key l)) : Asks p (ctx.fetch l) :=
  (asks_fetch h).bind fun a => asks_pure a.term

theorem asks_anySlice {test : Text → Cached Bool} (h : ∀ t, Asks p (test t)) (text : Text)
    (spans : List Span) : Asks p (anySlice test text spans) := by
  induction spans with
  | nil => exact asks_pure false
  | cons s rest ih => exact (h _).bind fun _ => .ite (asks_pure true) ih

mutual
theorem asks_eval {q : Query} (h : ∀ l ∈ q.leaves, p (ctx.key l)) (text : Text) :
    Asks p (eval ctx q text) := by
  cases q with
  | leaf l => exact (asks_contextFetch (h l (by simp [leaves]))).bind fun t => asks_pure _
  | field name d q =>
    refine (asks_liftExcept _).bind fun spans => ?_
    exact asks_anySlice (fun t => asks_eval (q := q) h t) text spans
  | not q => exact (asks_eval (q := q) h text).bind fun b => asks_pure (!b)
  | and qs => exact asks_evalAll qs h text
  | or qs => exact asks_evalAny qs h text
  | group q => exact asks_eval (q := q) h text

theorem asks_evalAll (qs : List Query) (h : ∀ l ∈ leavesOfAll qs, p (ctx.key l)) (text : Text) :
    Asks p (evalAll ctx qs text) := by
  cases qs with
  | nil => exact asks_pure true
  | cons q qs =>
    obtain ⟨hq, hqs⟩ := List.forall_mem_append.1 h
    exact (asks_eval hq text).bind fun _ => .ite (asks_evalAll qs hqs text) (asks_pure false)

theorem asks_evalAny (qs : List Query) (h : ∀ l ∈ leavesOfAll qs, p (ctx.key l)) (text : Text) :
    Asks p (evalAny ctx qs text) := by
  cases qs with
  | nil => exact asks_pure false
  | cons q qs =>
    obtain ⟨hq, hqs⟩ := List.forall_mem_append.1 h
    exact (asks_eval hq text).bind fun _ => .ite (asks_pure true) (asks_evalAny qs hqs text)
end

theorem asks_sliceFragments {find : Text → Nat → Cached (List Fragment)}
    (h : ∀ t n, Asks p (find t n)) (text : Text) (offset : Nat) (spans : List Span) :
    Asks p (sliceFragments find text offset spans) := by
  induction spans with
  | nil => exact asks_pure []
  | cons s rest ih =>
    exact (h _ _).bind fun here => ih.bind fun there => asks_pure (here ++ there)

mutual
theorem asks_fragmentsAt {q : Query} (h : ∀ l ∈ q.leaves, p (ctx.key l)) (text : Text)
    (offset : Nat) : Asks p (fragmentsAt ctx q text offset) := by
  cases q with
  | leaf l => exact (asks_contextFetch (h l (by simp [leaves]))).bind fun t => asks_pure _
  | field name d q =>
    refine (asks_liftExcept _).bind fun spans => ?_
    exact asks_sliceFragments (fun t n => asks_fragmentsAt (q := q) h t n) text offset spans
  | not q => exact asks_pure []
  | and qs => exact asks_fragmentsOfAll qs h text offset
  | or qs => exact asks_fragmentsOfAll qs h text offset
  | group q => exact asks_fragmentsAt (q := q) h text offset

theorem asks_fragmentsOfAll (qs : List Query) (h : ∀ l ∈ leavesOfAll qs, p (ctx.key l))
    (text : Text) (offset : Nat) : Asks p (fragmentsOfAll ctx qs text offset) := by
  cases qs with
  | nil => exact asks_pure []
  | cons q qs =>
    obtain ⟨hq, hqs⟩ := List.forall_mem_append.1 h
    refine (asks_fragmentsAt hq text offset).bind fun here => ?_
    exact (asks_fragmentsOfAll qs hqs text offset).bind fun there => asks_pure (here ++ there)
end

end Query

namespace Session

variable {s : Session} {q : Query} {extractor : Extractor} {c : Cache}

theorem eval_of_root (hq : s.root = some q) (extractor : Extractor) (text : Text) :
    s.eval extractor text = q.eval (s.context extractor) text := by
  unfold eval query
  rw [hq]
  rfl

theorem fragments_of_root (hq : s.root = some q) (extractor : Extractor) (text : Text) :
    s.fragments extractor text = q.fragments (s.context extractor) text := by
  unfold fragments query
  rw [hq]
  rfl

theorem compileTerms_of_root (hq : s.root = some q) :
    s.compileTerms = q.leaves.mapM (compileLeaf (s.context taggedFields)) := by
  unfold compileTerms query
  rw [hq]
  rfl

theorem cache_compileLeaf (ctx : Context) (l : Leaf) (c : Cache) :
    (compileLeaf ctx l c).2 = (Cache.fetch (ctx.key l) c).2 := by
  have hfetch : ctx.fetch l c = ((Cache.fetch (ctx.key l) c).1.map Entry.term,
      (Cache.fetch (ctx.key l) c).2) := by
    unfold Context.fetch
    rw [Cached.bind_apply]
    rcases Cache.fetch (ctx.key l) c with ⟨_ | a, c'⟩ <;> rfl
  unfold compileLeaf
  rw [show (ctx.fetch l).run c = ctx.fetch l c from rfl, hfetch]

/-- To compile all leaves is to ask for each of their keys, in the order of the leaves. -/
theorem cache_mapM_compileLeaf (ctx : Context) (ls : List Leaf) (c : Cache) :
    (ls.mapM (compileLeaf ctx) c).2 = (c.requests (ls.map ctx.key)).2 := by
  induction ls generalizing c with
  | nil => rfl
  | cons l ls ih =>
    have hok : ∃ x, compileLeaf ctx l c = (.ok x, (Cache.fetch (ctx.key l) c).2) :=
      ⟨_, Prod.ext rfl (cache_compileLeaf ctx l c)⟩
    obtain ⟨x, hx⟩ := hok
    have hrest : (c.requests ((l :: ls).map ctx.key)).2 =
        (ls.mapM (compileLeaf ctx) (Cache.fetch (ctx.key l) c).2).2 := (ih _).symm
    rw [List.mapM_cons, Cached.bind_apply, hx, hrest]
    simp only
    rw [Cached.bind_apply]
    rcases ls.mapM (compileLeaf ctx) (Cache.fetch (ctx.key l) c).2 with ⟨_ | xs, c'⟩ <;> rfl

/-- Whatever a session is asked, all it does to the cache is to ask for terms. -/
theorem reached_cache_call (s : Session) (extractor : Extractor) (x : Call) (hc : c.Reached) :
    (s.call extractor x c).2.2.Reached := by
  let p : TermKey → Prop := fun _ => True
  have hall : ∀ (ctx : Context) (q : Query), ∀ l ∈ q.leaves, p (ctx.key l) :=
    fun _ _ _ _ => trivial
  cases x with
  | parse query => exact hc
  | setOptions new => exact hc
  | termsWith new => exact hc
  | eval text =>
    have h : Asks p (s.eval extractor text) :=
      (asks_liftExcept _).bind fun q => Query.asks_eval (hall _ q) text
    exact h.reached hc
  | evalWith text new =>
    have h : Asks p (s.evalWith extractor text new) :=
      (asks_liftExcept _).bind fun r => (asks_liftExcept _).bind fun q =>
        Query.asks_eval (hall _ q) text
    exact h.reached hc
  | fragments text =>
    have h : Asks p (s.fragments extractor text) :=
      (asks_liftExcept _).bind fun q => Query.asks_fragmentsAt (hall _ q) text 0
    exact h.reached hc
  | compileTerms =>
    have h : Asks p s.compileTerms := (asks_liftExcept _).bind fun q =>
      Asks.mapM (fun l c => ⟨[_], by simp [p], cache_compileLeaf _ l c⟩) q.leaves
    exact h.reached hc

end Session

/-- Whatever is asked of sessions that share a cache, the cache stays one that requests can reach.
-/
theorem Pool.reached_run {n : Nat} {p : Pool n} (h : p.cache.Reached)
    (calls : List (Fin n × Session.Call)) : (p.run calls).2.cache.Reached := by
  induction calls generalizing p with
  | nil => exact h
  | cons call rest ih =>
    obtain ⟨i, x⟩ := call
    exact ih (Session.reached_cache_call (p.members i).session (p.members i).extractor x h)

end TextSieve
