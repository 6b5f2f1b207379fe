import TextSieve.Proofs.Cache.Asking
import TextSieve.Proofs.Query.Fragments
import TextSieve.Proofs.Session.History
import TextSieve.Report

/-! All ways through a query meet the same leaves: the visitor, the list of leaves, the compilation
of all terms and their explanation meet each once and in order, evaluation and the search for
fragments only some of them. They ask the cache for the same keys, so that after all terms have been
compiled neither evaluation nor the search for fragments compiles one more. -/

namespace TextSieve

namespace Query

mutual
/-- A walk takes in the texts of the leaves, one behind the other. -/
theorem visit_eq_foldl {σ : Type} (visitor : σ → Text → σ) (q : Query) (s : σ) :
    q.visit visitor s = q.leaves.foldl (fun s l => visitor s l.text) s := by
  cases q with
  | leaf l => rfl
  | field name d q => exact visit_eq_foldl visitor q s
  | not q => exact visit_eq_foldl visitor q s
  | and qs => exact visitAll_eq_foldl visitor qs s
  | or qs => exact visitAll_eq_foldl visitor qs s
  | group q => exact visit_eq_foldl visitor q s

theorem visitAll_eq_foldl {σ : Type} (visitor : σ → Text → σ) (qs : List Query) (s : σ) :
    visitAll visitor qs s = (leavesOfAll qs).foldl (fun s l => visitor s l.text) s := by
  cases qs with
  | nil => rfl
  | cons q qs =>
    rw [visitAll, leavesOfAll, List.foldl_append, visit_eq_foldl visitor q s]
    exact visitAll_eq_foldl visitor qs _
end

theorem terms_eq_map (q : Query) : q.terms = q.leaves.map Leaf.text := by
  have hcollect : ∀ (ls : List Leaf) (ts : List Text),
      ls.foldl (fun ts l => ts ++ [l.text]) ts = ts ++ ls.map Leaf.text := by
    intro ls
    induction ls with
    | nil => simp
    | cons l ls ih => simp [ih]
  rw [terms, visit_eq_foldl, hcollect, List.nil_append]

variable {ctx : Context}

def TermsAmong (ls : List Leaf) (fs : List Fragment) : Prop :=
  ∀ f ∈ fs, ∃ l ∈ ls, f.term = l.text

theorem termsAmong_nil (ls : List Leaf) : TermsAmong ls [] := by
  simp [TermsAmong]

theorem TermsAmong.append {ls ls' : List Leaf} {fs gs : List Fragment} (h : TermsAmong ls fs)
    (h' : TermsAmong ls' gs) : TermsAmong (ls ++ ls') (fs ++ gs) := by
  intro f hf
  rcases List.mem_append.1 hf with hf | hf
  · obtain ⟨l, hl, hterm⟩ := h f hf
    exact ⟨l, List.mem_append_left _ hl, hterm⟩
  · obtain ⟨l, hl, hterm⟩ := h' f hf
    exact ⟨l, List.mem_append_right _ hl, hterm⟩

theorem termsAmong_sliceFragments {ls : List Leaf} {find : Text → Nat → Cached (List Fragment)}
    (h : ∀ t n, Answers (find t n) (TermsAmong ls)) (text : Text) (offset : Nat)
    (spans : List Span) : Answers (sliceFragments find text offset spans) (TermsAmong ls) := by
  induction spans with
  | nil => exact answers_pure (termsAmong_nil ls)
  | cons s rest ih =>
    refine (h _ _).bind fun here hhere => ih.bind fun there hthere => answers_pure ?_
    exact fun f hf => (List.mem_append.1 hf).elim (hhere f) (hthere f)

mutual
theorem termsAmong_fragmentsAt (q : Query) (text : Text) (offset : Nat) :
    Answers (fragmentsAt ctx q text offset) (TermsAmong q.leaves) := by
  cases q with
  | leaf l =>
    have hany : Answers (ctx.fetch l) fun _ => True := answers_of_forall fun _ => trivial
    refine hany.bind fun t _ => answers_pure fun f hf => ?_
    obtain ⟨s, -, rfl⟩ := List.mem_map.1 hf
    exact ⟨l, by simp [leaves], rfl⟩
  | field name d q =>
    have hany : Answers (ctx.values text name) fun _ => True := answers_of_forall fun _ => trivial
    refine hany.bind fun spans _ => ?_
    exact termsAmong_sliceFragments (fun t n => termsAmong_fragmentsAt q t n) text offset spans
  | not q => exact answers_pure (termsAmong_nil _)
  | and qs => exact termsAmong_fragmentsOfAll qs text offset
  | or qs => exact termsAmong_fragmentsOfAll qs text offset
  | group q => exact termsAmong_fragmentsAt q text offset

theorem termsAmong_fragmentsOfAll (qs : List Query) (text : Text) (offset : Nat) :
    Answers (fragmentsOfAll ctx qs text offset) (TermsAmong (leavesOfAll qs)) := by
  cases qs with
  | nil => exact answers_pure (termsAmong_nil _)
  | cons q qs =>
    refine (termsAmong_fragmentsAt q text offset).bind fun here hhere => ?_
    refine (termsAmong_fragmentsOfAll qs text offset).bind fun there hthere => answers_pure ?_
    exact hhere.append hthere
end

end Query

/-- The pattern of what a leaf compiles to explains it and no error does, or else the error does and
no pattern. -/
def LeafReport.Explains (r : LeafReport) (x : Except Error CompiledTerm) : Prop :=
  (∀ t, x = .ok t → r.pattern = some t.pattern ∧ r.error = none) ∧
    ∀ e, x = .error e → r.pattern = none ∧ r.error = some e.message

theorem LeafReport.Explains.isSome_eq {r : LeafReport} {x : Except Error CompiledTerm}
    (h : r.Explains x) : r.pattern.isSome = !r.error.isSome := by
  cases x with
  | ok t => simp [h.1 t rfl]
  | error e => simp [h.2 e rfl]

namespace Session

variable {s : Session} {q : Query} {c : Cache}

def compiledAlone (s : Session) (l : Leaf) : Except Error CompiledTerm :=
  ((Query.leaf l).compile (s.context taggedFields) {}).1

theorem compiledAlone_eq (s : Session) (l : Leaf) :
    s.compiledAlone l = CompiledTerm.compile ((s.context taggedFields).key l) :=
  ((s.context taggedFields).gives_fetch l {} Cache.faithful_empty).1

theorem gives_compileLeaf (ctx : Context) (l : Leaf) :
    Gives (compileLeaf ctx l) (.ok (l, CompiledTerm.compile (ctx.key l))) := by
  intro c hc
  obtain ⟨ha, hc'⟩ := ctx.gives_fetch l c hc
  unfold compileLeaf
  rw [show (ctx.fetch l).run c = (CompiledTerm.compile (ctx.key l), (ctx.fetch l c).2) from
    Prod.ext ha rfl]
  exact ⟨rfl, hc'⟩

theorem gives_mapM {α β : Type} {act : α → Cached β} {f : α → β}
    (h : ∀ a, Gives (act a) (.ok (f a))) (as : List α) : Gives (as.mapM act) (.ok (as.map f)) := by
  induction as with
  | nil => exact gives_pure []
  | cons a as ih =>
    rw [List.mapM_cons]
    exact (h a).bind_ok (ih.bind_ok (gives_pure _))

/-- One entry for each leaf, whichever of them fail. -/
theorem gives_compileTerms (hq : s.root = some q) :
    Gives s.compileTerms (.ok (q.leaves.map fun l => (l, s.compiledAlone l))) := by
  rw [compileTerms_of_root hq]
  simp only [compiledAlone_eq]
  exact gives_mapM (gives_compileLeaf _) q.leaves

theorem gives_explanation (hq : s.root = some q) :
    Gives s.explanation (.ok {
      query := q.display
      delimiter := s.resolved.fragment
      ignoreCase := s.resolved.options.ignoreCase
      tree := q
      leaves := q.leaves.map fun l => leafReport l (s.compiledAlone l) }) := by
  have hquery : s.query = .ok q := by
    unfold query
    rw [hq]
  have hlift : Gives (liftExcept s.query) (.ok q) := hquery ▸ gives_liftExcept _
  refine hlift.bind_ok ((gives_compileTerms hq).bind_ok ?_)
  rw [List.map_map]
  exact gives_pure _

theorem explains_leafReport (l : Leaf) (x : Except Error CompiledTerm) :
    (leafReport l x).Explains x := by
  cases x with
  | ok t =>
    constructor
    · rintro _ ⟨⟩
      exact ⟨rfl, rfl⟩
    · rintro _ ⟨⟩
  | error e =>
    constructor
    · rintro _ ⟨⟩
    · rintro _ ⟨⟩
      exact ⟨rfl, rfl⟩

theorem term_leafReport (l : Leaf) (x : Except Error CompiledTerm) :
    (leafReport l x).term = Query.displayLeaf l := by
  cases x with
  | ok t => rfl
  | error e => rfl

theorem asks_eval_of_root (hq : s.root = some q) (extractor : Extractor) (text : Text) :
    Asks (fun k => ∃ l ∈ q.leaves, k = (s.context extractor).key l) (s.eval extractor text) := by
  rw [eval_of_root hq]
  exact Query.asks_eval (fun l hl => ⟨l, hl, rfl⟩) text

theorem asks_fragments_of_root (hq : s.root = some q) (extractor : Extractor) (text : Text) :
    Asks (fun k => ∃ l ∈ q.leaves, k = (s.context extractor).key l)
      (s.fragments extractor text) := by
  rw [fragments_of_root hq]
  exact Query.asks_fragmentsAt (fun l hl => ⟨l, hl, rfl⟩) text 0

/-- Once all terms have been compiled, every leaf has its term in the cache or has none. -/
theorem settles_compileTerms (hq : s.root = some q) (c : Cache) (extractor : Extractor) :
    ∀ k, (∃ l ∈ q.leaves, k = (s.context extractor).key l) → (s.compileTerms c).2.Settles k := by
  intro k hk
  obtain ⟨l, hl, rfl⟩ := hk
  rw [compileTerms_of_root hq, cache_mapM_compileLeaf]
  exact Cache.settles_requests c _ _ (List.mem_map_of_mem hl)

def Call.Looks (x : Call) : Prop :=
  ∃ text, x = .eval text ∨ x = .fragments text

/-- Looking at a text with all leaves settled compiles nothing, and leaves them settled. -/
theorem compilations_of_looks (hq : s.root = some q) {extractor : Extractor} {x : Call}
    (hx : x.Looks)
    (hc : ∀ k, (∃ l ∈ q.leaves, k = (s.context extractor).key l) → c.Settles k) :
    (s.call extractor x c).2.1 = s ∧
      (s.call extractor x c).2.2.entries = c.entries ∧
      (s.call extractor x c).2.2.compilations = c.compilations := by
  obtain ⟨text, rfl | rfl⟩ := hx
  · exact ⟨rfl, (asks_eval_of_root hq extractor text).compilations_eq hc⟩
  · exact ⟨rfl, (asks_fragments_of_root hq extractor text).compilations_eq hc⟩

theorem compilations_run_of_looks (hq : s.root = some q) {extractor : Extractor} {calls : List Call}
    (hcalls : ∀ x ∈ calls, x.Looks)
    (hc : ∀ k, (∃ l ∈ q.leaves, k = (s.context extractor).key l) → c.Settles k) :
    (s.run extractor calls c).2.2.compilations = c.compilations := by
  induction calls generalizing c with
  | nil => rfl
  | cons x calls ih =>
    obtain ⟨hx, hcalls⟩ := List.forall_mem_cons.1 hcalls
    obtain ⟨hs, hentries, hcompilations⟩ := compilations_of_looks hq hx hc
    have hrest := ih hcalls (c := (s.call extractor x c).2.2) fun k hk => by
      unfold Cache.Settles
      rw [hentries]
      exact hc k hk
    calc (s.run extractor (x :: calls) c).2.2.compilations
        = ((s.call extractor x c).2.1.run extractor calls
            (s.call extractor x c).2.2).2.2.compilations := rfl
      _ = (s.call extractor x c).2.2.compilations := by rw [hs, hrest]
      _ = c.compilations := hcompilations

/-- On every cache there can be, all ways through a query meet the same leaves: visitors and terms,
the compilation of all terms, their explanation, evaluation and the search for fragments. After the
compilation of all terms, whatever is evaluated or searched compiles none. -/
theorem same_leaves (hq : s.root = some q) (hc : c.Reached) :
    (∀ (σ : Type) (visitor : σ → Text → σ) (x : σ),
      q.visit visitor x = q.leaves.foldl (fun x l => visitor x l.text) x) ∧
    q.terms = q.leaves.map Leaf.text ∧
    (s.compileTerms c).1 = .ok (q.leaves.map fun l => (l, s.compiledAlone l)) ∧
    (∃ e, (s.explanation c).1 = .ok e ∧
      e.leaves = q.leaves.map (fun l => leafReport l (s.compiledAlone l)) ∧
      e.leaves.map LeafReport.term = q.leaves.map Query.displayLeaf ∧
      List.Forall₂ (fun l r => r.Explains (s.compiledAlone l)) q.leaves e.leaves ∧
      ∀ r ∈ e.leaves, r.pattern.isSome = !r.error.isSome) ∧
    ∀ extractor : Extractor,
      (∀ text fs, (s.fragments extractor text c).1 = .ok fs →
        ∀ f ∈ fs, ∃ l ∈ q.leaves, f.term = l.text) ∧
      (∀ text, (∀ a ∈ (s.eval extractor text c).2.entries,
          a ∈ c.entries ∨ ∃ l ∈ q.leaves, a.key = (s.context extractor).key l) ∧
        ∀ a ∈ (s.fragments extractor text c).2.entries,
          a ∈ c.entries ∨ ∃ l ∈ q.leaves, a.key = (s.context extractor).key l) ∧
      ∀ calls : List Call, (∀ x ∈ calls, x.Looks) →
        (s.run extractor calls (s.compileTerms c).2).2.2.compilations =
          (s.compileTerms c).2.compilations := by
  refine ⟨fun σ visitor x => Query.visit_eq_foldl visitor q x, q.terms_eq_map,
    (gives_compileTerms hq c hc.faithful).1,
    ⟨_, (gives_explanation hq c hc.faithful).1, rfl, ?_, ?_, ?_⟩, fun extractor => ⟨?_, ?_, ?_⟩⟩
  · rw [List.map_map]
    exact List.map_congr_left fun l _ => term_leafReport l _
  · rw [List.forall₂_map_right_iff, List.forall₂_same]
    exact fun l _ => explains_leafReport l _
  · intro r hr
    obtain ⟨l, -, rfl⟩ := List.mem_map.1 hr
    exact (explains_leafReport l _).isSome_eq
  · intro text fs hfs
    rw [fragments_of_root hq] at hfs
    exact Query.termsAmong_fragmentsAt q text 0 c fs hfs
  · intro text
    exact ⟨(asks_eval_of_root hq extractor text).mem_entries c,
      (asks_fragments_of_root hq extractor text).mem_entries c⟩
  · intro calls hcalls
    exact compilations_run_of_looks hq hcalls (settles_compileTerms hq c extractor)

/-- A leaf that does not compile stands beside one that does: it is listed like the others, and all
that evaluation and the search for fragments need has been compiled. -/
theorem same_leaves_tilde :
    let s : Session := {
      root := some (.or [.word ['a'],
        .not (.field ['f'] [':'] (.group (.and [.word ['b'], .word ['~']])))])
      resolved := ⟨{}, ['(', '?', ':', ' ', ')']⟩ }
    withQuery ['a', ' ', 'O', 'R', ' ', 'N', 'O', 'T', ' ', 'f', ':', '(', 'b', ' ', '~', ')'] {} =
        .ok s ∧
      s.root.map Query.terms = some [['a'], ['b'], ['~']] ∧
      (s.run taggedFields [.eval ['b'], .fragments ['a']] (s.compileTerms {}).2).2.2.compilations =
        (s.compileTerms {}).2.compilations ∧
      (s.compileTerms {}).2.compilations = 2 := by
  intro s
  have h := same_leaves (s := s) (c := {}) rfl ⟨[], rfl⟩
  refine ⟨by decide +kernel, by rw [Option.map_some, h.2.1]; rfl, ?_, by decide +kernel⟩
  refine (h.2.2.2.2 taggedFields).2.2 _ ?_
  simp [Call.Looks]

end Session

end TextSieve
