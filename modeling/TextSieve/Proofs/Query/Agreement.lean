import TextSieve.Proofs.Term.Tokens

/-! Fragments and truth. Where all fragments of a query without negations can be found, its
evaluation, which may stop early, does not fail either. A query that is true has fragments if no
conjunction in it is empty, and one that has fragments is true if it has no conjunction at all. -/

namespace TextSieve

open Pattern

/-- Every match of a literal term says where the term is. -/
theorem isSome_group?_of_goes {ds : List Text} (hne : ds ≠ []) {k : TermKey} {t : CompiledTerm}
    (hk : k.asPattern = false) (hfragment : k.fragment = Delimiter.choice (ds.map escape))
    (ht : CompiledTerm.compile k = .ok t) (caseless : Bool) (u v : Text) (m : Thread)
    (h : (t.matcher caseless).Goes (.startAt (.between u v)) m) :
    (m.group? termGroup).isSome = true := by
  obtain ⟨f, hf⟩ := exists_parse_of_compile ht
  rw [matcher_eq_delimited hne hk hfragment ht hf] at h
  obtain ⟨l, x, r, y, -, -, -, -, hgroup⟩ := goes_delimited (ungrouped_anyOf ds) h
  rw [hgroup]
  rfl

namespace Query

mutual
def parts : Query → List Query
  | leaf l => [leaf l]
  | field name d q => field name d q :: parts q
  | not q => not q :: parts q
  | and qs => and qs :: partsOfAll qs
  | or qs => or qs :: partsOfAll qs
  | group q => group q :: parts q

def partsOfAll : List Query → List Query
  | [] => []
  | q :: qs => parts q ++ partsOfAll qs
end

/-- What the fragments of queries with these parts say about their truth, and the other way
around. -/
structure Corresponds (ps : List Query) (fs : List Fragment) (b : Bool) : Prop where
  ne_nil : and [] ∉ ps → b = true → fs ≠ []
  holds : (∀ qs, and qs ∉ ps) → fs ≠ [] → b = true

variable {ps ps' : List Query} {fs gs : List Fragment} {b b' : Bool}

theorem Corresponds.mono (h : Corresponds ps fs b) (hsub : ps ⊆ ps') : Corresponds ps' fs b where
  ne_nil := fun hps => h.ne_nil fun hmem => hps (hsub hmem)
  holds := fun hps => h.holds fun qs hmem => hps qs (hsub hmem)

theorem corresponds_nil : Corresponds ps [] false := ⟨by simp, by simp⟩

theorem Corresponds.or (h : Corresponds ps fs b) (h' : Corresponds ps gs b') :
    Corresponds ps (fs ++ gs) (b || b') where
  ne_nil := by
    intro hps hb
    rcases Bool.or_eq_true_iff.1 hb with hb | hb
    · simp [h.ne_nil hps hb]
    · simp [h'.ne_nil hps hb]
  holds := by
    intro hps hne
    by_cases hfs : fs = []
    · simp [h'.holds hps (by simpa [hfs] using hne)]
    · simp [h.holds hps hfs]

variable {ctx : Context}

/-- Lists found one behind the other. -/
theorem exists_of_gives_append {find find' : Cached (List Fragment)} (h : Transparent find)
    (h' : Transparent find') (hfs : Gives (do return (← find) ++ (← find')) (.ok fs)) :
    ∃ here others, fs = here ++ others ∧ Gives find (.ok here) ∧ Gives find' (.ok others) := by
  obtain ⟨here, hhere, hfs⟩ := hfs.exists_of_bind h fun _ => h'.bind fun _ => transparent_pure _
  obtain ⟨others, hothers, hfs⟩ := hfs.exists_of_bind h' fun _ => transparent_pure _
  exact ⟨here, others, Except.ok.inj (hfs.unique (gives_pure _)), hhere, hothers⟩

theorem corresponds_slices {find : Text → Nat → Cached (List Fragment)} {test : Text → Cached Bool}
    (hfind : ∀ t n, Transparent (find t n))
    (h : ∀ t n fs, Gives (find t n) (.ok fs) → ∃ b, Gives (test t) (.ok b) ∧ Corresponds ps fs b)
    {text : Text} {offset : Nat} {spans : List Span}
    (hfs : Gives (sliceFragments find text offset spans) (.ok fs)) :
    ∃ b, Gives (anySlice test text spans) (.ok b) ∧ Corresponds ps fs b := by
  induction spans generalizing fs with
  | nil =>
    obtain rfl : [] = fs := Except.ok.inj ((gives_pure []).unique hfs)
    exact ⟨false, gives_pure false, corresponds_nil⟩
  | cons s rest ih =>
    have hrest := transparent_sliceFragments hfind text offset rest
    obtain ⟨here, others, rfl, hhere, hothers⟩ := exists_of_gives_append (hfind _ _) hrest hfs
    obtain ⟨b, hb, hcb⟩ := h _ _ _ hhere
    obtain ⟨b', hb', hcb'⟩ := ih hothers
    exact ⟨b || b', gives_or hb hb', hcb.or hcb'⟩

def LeafCorresponds (ctx : Context) (l : Leaf) : Prop :=
  ∀ text offset fs, Gives (leafFragments ctx l text offset) (.ok fs) →
    ∃ b, Gives (eval ctx (leaf l) text) (.ok b) ∧ Corresponds [leaf l] fs b

theorem leafCorresponds_of_literal {ds : List Text} (hne : ds ≠ [])
    (hfragment : ctx.resolved.fragment = Delimiter.choice (ds.map escape)) {l : Leaf}
    (hl : (ctx.key l).asPattern = false) : LeafCorresponds ctx l := by
  intro text offset fs hfs
  obtain ⟨t, ht, hfs⟩ := hfs.exists_of_bind (ctx.transparent_fetch l) fun _ => transparent_pure _
  have hcompile : CompiledTerm.compile (ctx.key l) = .ok t := (ctx.gives_fetch l).unique ht
  obtain rfl := Except.ok.inj ((gives_pure _).unique hfs)
  refine ⟨t.isMatch ctx.ignoreCase text, gives_eval_leaf hcompile text, ?_⟩
  have hiff : t.isMatch ctx.ignoreCase text = true ↔
      termSpans (t.matcher ctx.ignoreCase) text ≠ [] :=
    isMatch_iff_termSpans_ne_nil (isSome_group?_of_goes hne hl hfragment hcompile ctx.ignoreCase)
  constructor
  · intro _ hb
    simpa using hiff.1 hb
  · intro _ hspans
    exact hiff.2 (by simpa using hspans)

mutual
/-- By induction on the query: where the fragments are found, the truth is, and the two
correspond. -/
theorem corresponds_eval (q : Query) (hleaves : ∀ l ∈ q.leaves, LeafCorresponds ctx l)
    (hnot : ∀ p, not p ∉ q.parts) (text : Text) (offset : Nat) (fs : List Fragment)
    (hfs : Gives (fragmentsAt ctx q text offset) (.ok fs)) :
    ∃ b, Gives (eval ctx q text) (.ok b) ∧ Corresponds q.parts fs b := by
  cases q with
  | leaf l =>
    rw [fragmentsAt] at hfs
    exact hleaves l (by simp [leaves]) text offset fs hfs
  | field name d q =>
    have hnot : ∀ p, not p ∉ q.parts := by simpa [parts] using hnot
    rw [fragmentsAt] at hfs
    obtain ⟨spans, hspans, hfs⟩ := hfs.exists_of_bind (transparent_liftExcept _) fun _ =>
      transparent_sliceFragments (transparent_fragmentsAt ctx q) ..
    obtain ⟨b, hb, hcb⟩ :=
      corresponds_slices (transparent_fragmentsAt ctx q) (corresponds_eval q hleaves hnot) hfs
    refine ⟨b, ?_, hcb.mono (List.subset_cons_self ..)⟩
    rw [eval]
    exact hspans.bind_ok hb
  | not q => exact absurd (List.mem_cons_self ..) (hnot q)
  | and qs =>
    have hnot : ∀ p, not p ∉ partsOfAll qs := by simpa [parts] using hnot
    rw [fragmentsAt] at hfs
    obtain ⟨b, hb, hne⟩ := ne_nil_evalAll qs hleaves hnot text offset fs hfs
    refine ⟨b, by rwa [eval], ?_, ?_⟩
    · intro hfilled
      obtain ⟨hqs, hfilled⟩ : qs ≠ [] ∧ and [] ∉ partsOfAll qs := by
        simpa [parts, eq_comm] using hfilled
      exact hne hfilled hqs
    · intro hflat
      exact absurd (List.mem_cons_self ..) (hflat qs)
  | or qs =>
    have hnot : ∀ p, not p ∉ partsOfAll qs := by simpa [parts] using hnot
    rw [fragmentsAt] at hfs
    obtain ⟨b, hb, hcb⟩ := corresponds_evalAny qs hleaves hnot text offset fs hfs
    exact ⟨b, by rwa [eval], hcb.mono (List.subset_cons_self ..)⟩
  | group q =>
    have hnot : ∀ p, not p ∉ q.parts := by simpa [parts] using hnot
    rw [fragmentsAt] at hfs
    obtain ⟨b, hb, hcb⟩ := corresponds_eval q hleaves hnot text offset fs hfs
    exact ⟨b, by rwa [eval], hcb.mono (List.subset_cons_self ..)⟩

/-- Conjunctions that are true have the fragments of their first operand, if there is one. -/
theorem ne_nil_evalAll (qs : List Query) (hleaves : ∀ l ∈ leavesOfAll qs, LeafCorresponds ctx l)
    (hnot : ∀ p, not p ∉ partsOfAll qs) (text : Text) (offset : Nat) (fs : List Fragment)
    (hfs : Gives (fragmentsOfAll ctx qs text offset) (.ok fs)) :
    ∃ b, Gives (evalAll ctx qs text) (.ok b) ∧
      (and [] ∉ partsOfAll qs → qs ≠ [] → b = true → fs ≠ []) := by
  cases qs with
  | nil =>
    rw [evalAll]
    exact ⟨true, gives_pure true, by simp⟩
  | cons q qs =>
    simp only [leavesOfAll, partsOfAll, List.mem_append, not_or, or_imp, forall_and]
      at hleaves hnot ⊢
    have hrest := transparent_fragmentsOfAll ctx qs text offset
    rw [fragmentsOfAll] at hfs
    obtain ⟨here, others, rfl, hhere, hothers⟩ :=
      exists_of_gives_append (transparent_fragmentsAt ctx q text offset) hrest hfs
    obtain ⟨b, hb, hcb⟩ := corresponds_eval q hleaves.1 hnot.1 text offset here hhere
    obtain ⟨b', hb', -⟩ := ne_nil_evalAll qs hleaves.2 hnot.2 text offset others hothers
    rw [evalAll]
    refine ⟨b && b', gives_and hb hb', fun hfilled _ hboth => ?_⟩
    simp [hcb.ne_nil hfilled.1 (Bool.and_eq_true_iff.1 hboth).1]

theorem corresponds_evalAny (qs : List Query)
    (hleaves : ∀ l ∈ leavesOfAll qs, LeafCorresponds ctx l)
    (hnot : ∀ p, not p ∉ partsOfAll qs) (text : Text) (offset : Nat) (fs : List Fragment)
    (hfs : Gives (fragmentsOfAll ctx qs text offset) (.ok fs)) :
    ∃ b, Gives (evalAny ctx qs text) (.ok b) ∧ Corresponds (partsOfAll qs) fs b := by
  cases qs with
  | nil =>
    rw [fragmentsOfAll] at hfs
    obtain rfl : [] = fs := Except.ok.inj ((gives_pure []).unique hfs)
    rw [evalAny]
    exact ⟨false, gives_pure false, corresponds_nil⟩
  | cons q qs =>
    simp only [leavesOfAll, partsOfAll, List.mem_append, not_or, or_imp, forall_and]
      at hleaves hnot ⊢
    have hrest := transparent_fragmentsOfAll ctx qs text offset
    rw [fragmentsOfAll] at hfs
    obtain ⟨here, others, rfl, hhere, hothers⟩ :=
      exists_of_gives_append (transparent_fragmentsAt ctx q text offset) hrest hfs
    obtain ⟨b, hb, hcb⟩ := corresponds_eval q hleaves.1 hnot.1 text offset here hhere
    obtain ⟨b', hb', hcb'⟩ := corresponds_evalAny qs hleaves.2 hnot.2 text offset others hothers
    rw [evalAny]
    refine ⟨b || b', gives_or hb hb', (hcb.mono ?_).or (hcb'.mono ?_)⟩
    · exact List.subset_append_left ..
    · exact List.subset_append_right ..
end

/-- Under literal delimiters a query of literal leaves without negations is decided wherever its
fragments are found. If no conjunction in it is empty, it is true only with fragments; if there is
none at all, it is true with any. -/
theorem eval_of_fragments {o : Options} {ds : List Text} (hds : o.delimiters = ds.map .literal)
    (hne : ds ≠ []) (hlit : [] ∉ ds) (hregexp : o.regexp = false) {q : Query}
    (hleaves : ∀ l ∈ q.leaves, l.kind ≠ .pattern) (hnot : ∀ p, not p ∉ q.parts) :
    ∃ r, o.resolve = .ok r ∧
      ∀ extractor text fs, ∀ c c' : Cache, c.Faithful → c'.Faithful →
        (q.fragments ⟨r, extractor⟩ text c).1 = .ok fs →
        ∃ b, (q.eval ⟨r, extractor⟩ text c').1 = .ok b ∧
          (and [] ∉ q.parts → b = true → fs ≠ []) ∧
          ((∀ qs, and qs ∉ q.parts) → fs ≠ [] → b = true) := by
  let r : Resolved := ⟨o, Delimiter.choice (ds.map escape)⟩
  refine ⟨r, resolve_literals hds hne hlit, fun extractor text fs c c' hc hc' hfs => ?_⟩
  have hall : ∀ l ∈ q.leaves, LeafCorresponds ⟨r, extractor⟩ l := by
    intro l hl
    refine leafCorresponds_of_literal hne rfl ?_
    simp [Context.key, Leaf.isPattern, hleaves l hl, hregexp, r]
  have hgives := (transparent_fragmentsAt ⟨r, extractor⟩ q text 0).gives hc hfs
  obtain ⟨b, hb, hcb⟩ := corresponds_eval q hall hnot text 0 fs hgives
  exact ⟨b, (hb c' hc').1, hcb.ne_nil, hcb.holds⟩

/-- A term of two values of a field, one of which matches it. -/
theorem eval_of_fragments_values :
    let q : Query := .or [.field ['n'] [':'] (.group (.word ['a'])), .phrase ['z']]
    ∃ r, ({} : Options).resolve = .ok r ∧
      (q.fragments ⟨r, taggedFields⟩ ['n', ':', 'b', ' ', 'n', ':', 'A', ' ', 'c'] {}).1 =
          .ok [⟨['a'], ⟨6, 7⟩, ['A']⟩] ∧
        (q.eval ⟨r, taggedFields⟩ ['n', ':', 'b', ' ', 'n', ':', 'A', ' ', 'c'] {}).1 =
          .ok true := by
  intro q
  let o : Options := {}
  have hds : o.delimiters = [[' ']].map .literal := rfl
  have hleaves : ∀ l ∈ q.leaves, l.kind ≠ .pattern := by decide
  have hnot : ∀ p, not p ∉ q.parts := by simp [q, parts, partsOfAll, word, phrase]
  have hflat : ∀ qs, and qs ∉ q.parts := by simp [q, parts, partsOfAll, word, phrase]
  obtain ⟨r, hr, h⟩ := eval_of_fragments hds (by simp) (by simp) rfl hleaves hnot
  have hfragment : ⟨o, Delimiter.choice [escape [' ']]⟩ = r := Except.ok.inj hr
  subst hfragment
  have hfs : (q.fragments ⟨⟨o, Delimiter.choice [escape [' ']]⟩, taggedFields⟩
      ['n', ':', 'b', ' ', 'n', ':', 'A', ' ', 'c'] {}).1 =
        .ok [⟨['a'], ⟨6, 7⟩, ['A']⟩] := by decide +kernel
  obtain ⟨b, hb, -, hholds⟩ :=
    h taggedFields _ _ {} {} Cache.faithful_empty Cache.faithful_empty hfs
  exact ⟨_, hr, hfs, by rw [hb, hholds hflat (by simp)]⟩

end Query

end TextSieve
