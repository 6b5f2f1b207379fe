import Mathlib.Tactic.Common
import TextSieve.Proofs.Field.Soundness
import TextSieve.Proofs.Query.Agreement
import TextSieve.Proofs.Term.Delimiters

/-! Ignoring case adds matches and takes none away. What a literal term stands for with its case it
stands for without it, and a field has all its values and perhaps more, so that a query without
negations that holds with its case is not denied without it, although the two evaluations may stop
at different operands. -/

namespace TextSieve

open Pattern

theorem Text.Alike.caseless {t t' : Text} (h : t.Alike false t') : t.Alike true t' := by
  have heq : t = t' := h
  subst heq
  exact rfl

theorem FuzzyTerm.Fits.caseless {f : FuzzyTerm} {t : Text} (h : f.Fits false t) :
    f.Fits true t := by
  obtain ⟨x, w, y, rfl, hx, hw, hy⟩ := h
  exact ⟨x, w, y, rfl, hx, hw.caseless, hy⟩

theorem FuzzyTerm.Stands.caseless {f : FuzzyTerm} {ds : List Text} {t : Text}
    (h : f.Stands false (ds.map .literal) t) : f.Stands true (ds.map .literal) t := by
  have hdelimiter : ∀ {u w v : Text}, (∃ d ∈ ds.map Delimiter.literal, d.Matches false u w v) →
      ∃ d ∈ ds.map Delimiter.literal, d.Matches true u w v := by
    intro u w v hmatch
    obtain ⟨_, hd, hw⟩ := hmatch
    obtain ⟨d, -, rfl⟩ := List.mem_map.1 hd
    exact ⟨_, hd, Text.Alike.caseless hw⟩
  obtain ⟨u, l, x, r, v, rfl, hx, hl, hr⟩ := h
  exact ⟨u, l, x, r, v, rfl, hx.caseless, hl.imp_right hdelimiter, hr.imp_left hdelimiter⟩

theorem Tag.values_subset_caseless (field : Text) (stop : Nat) (tags : List Tag) :
    values field false stop tags ⊆ values field true stop tags := by
  intro s hs
  obtain ⟨t, ht, hname⟩ := mem_values_iff.1 hs
  have hsame : t.name = field := hname
  exact mem_values_iff.2 ⟨t, ht, congrArg Unicode.lower hsame⟩

/-- The tags do not depend on the case mode, only which of them are those of the field. -/
theorem taggedFields_caseless {o : Options} {fragment text field : Text} {spans spans' : List Span}
    (h : taggedFields ⟨{ o with ignoreCase := false }, fragment⟩ text field = .ok spans)
    (h' : taggedFields ⟨{ o with ignoreCase := true }, fragment⟩ text field = .ok spans') :
    spans ⊆ spans' := by
  rcases taggedFields_eq_ok h with ⟨-, rfl⟩ | ⟨a, tags, ha, htags, rfl⟩
  · exact List.nil_subset _
  · rcases taggedFields_eq_ok h' with ⟨hnone, -⟩ | ⟨a', tags', ha', htags', rfl⟩
    · cases ha.symm.trans hnone
    · obtain rfl := Option.some.inj (ha.symm.trans ha')
      obtain rfl := Except.ok.inj (htags.symm.trans htags')
      exact Tag.values_subset_caseless field text.size tags

section

variable {act act' : Cached Bool} (h : Transparent act) (h' : Transparent act')

include h h'

theorem gives_and_true (ht : Gives (do if ← act then act' else return false) (.ok true)) :
    Gives act (.ok true) ∧ Gives act' (.ok true) := by
  obtain ⟨b, hb, hrest⟩ := ht.exists_of_bind h fun _ => .ite h' (transparent_pure false)
  cases b with
  | true => exact ⟨hb, hrest⟩
  | false => cases hrest.unique (gives_pure false)

theorem gives_and_false (hf : Gives (do if ← act then act' else return false) (.ok false)) :
    Gives act (.ok false) ∨ Gives act' (.ok false) := by
  obtain ⟨b, hb, hrest⟩ := hf.exists_of_bind h fun _ => .ite h' (transparent_pure false)
  cases b with
  | true => exact .inr hrest
  | false => exact .inl hb

theorem gives_or_true (ht : Gives (do if ← act then return true else act') (.ok true)) :
    Gives act (.ok true) ∨ Gives act' (.ok true) := by
  obtain ⟨b, hb, hrest⟩ := ht.exists_of_bind h fun _ => .ite (transparent_pure true) h'
  cases b with
  | true => exact .inl hb
  | false => exact .inr hrest

theorem gives_or_false (hf : Gives (do if ← act then return true else act') (.ok false)) :
    Gives act (.ok false) ∧ Gives act' (.ok false) := by
  obtain ⟨b, hb, hrest⟩ := hf.exists_of_bind h fun _ => .ite (transparent_pure true) h'
  cases b with
  | true => cases hrest.unique (gives_pure true)
  | false => exact ⟨hb, hrest⟩

end

namespace Query

section

variable {test test' : Text → Cached Bool} {text : Text} {spans spans' : List Span}

theorem exists_of_gives_anySlice (h : ∀ t, Transparent (test t))
    (ht : Gives (anySlice test text spans) (.ok true)) :
    ∃ s ∈ spans, Gives (test (text.slice s)) (.ok true) := by
  induction spans with
  | nil => cases ht.unique (gives_pure false)
  | cons s rest ih =>
    rcases gives_or_true (h _) (transparent_anySlice h text rest) ht with hhere | hrest
    · exact ⟨s, List.mem_cons_self .., hhere⟩
    · obtain ⟨s', hs', hgives⟩ := ih hrest
      exact ⟨s', List.mem_cons_of_mem s hs', hgives⟩

theorem forall_of_gives_anySlice (h : ∀ t, Transparent (test t))
    (hf : Gives (anySlice test text spans) (.ok false)) :
    ∀ s ∈ spans, Gives (test (text.slice s)) (.ok false) := by
  induction spans with
  | nil => simp
  | cons s rest ih =>
    obtain ⟨hhere, hrest⟩ := gives_or_false (h _) (transparent_anySlice h text rest) hf
    exact List.forall_mem_cons.2 ⟨hhere, ih hrest⟩

/-- The second computation does not deny what the first one affirms. -/
def Upholds (act act' : Cached Bool) : Prop :=
  Gives act (.ok true) → ¬ Gives act' (.ok false)

/-- A slice that is found among fewer is found among more. -/
theorem upholds_anySlice (h : ∀ t, Transparent (test t)) (h' : ∀ t, Transparent (test' t))
    (htest : ∀ t, Upholds (test t) (test' t)) (hsub : spans ⊆ spans') :
    Upholds (anySlice test text spans) (anySlice test' text spans') := by
  intro ht hf
  obtain ⟨s, hs, hgives⟩ := exists_of_gives_anySlice h ht
  exact htest _ hgives (forall_of_gives_anySlice h' hf s (hsub hs))

end

section

variable {ctx ctx' : Context}

def KeepsValues (ctx ctx' : Context) : Prop :=
  ∀ text name spans spans', ctx.extractor ctx.resolved text name = .ok spans →
    ctx'.extractor ctx'.resolved text name = .ok spans' → spans ⊆ spans'

def LeafUpheld (ctx ctx' : Context) (l : Leaf) : Prop :=
  ∀ text, Upholds (eval ctx (leaf l) text) (eval ctx' (leaf l) text)

mutual
/-- By induction on the query: a conjunction is denied by an operand that the other run affirms, and
a disjunction is affirmed by an operand that the other run denies. -/
theorem upholds_eval (hv : KeepsValues ctx ctx') (q : Query)
    (hleaves : ∀ l ∈ q.leaves, LeafUpheld ctx ctx' l)
    (hnot : ∀ p, not p ∉ q.parts) (text : Text) : Upholds (eval ctx q text) (eval ctx' q text) := by
  cases q with
  | leaf l => exact hleaves l (by simp [leaves]) text
  | field name d q =>
    have hnot : ∀ p, not p ∉ q.parts := by simpa [parts] using hnot
    intro ht hf
    rw [eval] at ht hf
    have hslices := fun (ctx : Context) (spans : List Span) =>
      transparent_anySlice (transparent_eval ctx q) text spans
    obtain ⟨spans, hspans, ht⟩ := ht.exists_of_bind (transparent_liftExcept _) (hslices ctx)
    obtain ⟨spans', hspans', hf⟩ := hf.exists_of_bind (transparent_liftExcept _) (hslices ctx')
    have hsub := hv _ _ _ _ ((gives_liftExcept _).unique hspans)
      ((gives_liftExcept _).unique hspans')
    exact upholds_anySlice (transparent_eval ctx q) (transparent_eval ctx' q)
      (upholds_eval hv q hleaves hnot) hsub ht hf
  | not q => exact absurd (List.mem_cons_self ..) (hnot q)
  | and qs =>
    have hnot : ∀ p, not p ∉ partsOfAll qs := by simpa [parts] using hnot
    exact upholds_evalAll hv qs hleaves hnot text
  | or qs =>
    have hnot : ∀ p, not p ∉ partsOfAll qs := by simpa [parts] using hnot
    exact upholds_evalAny hv qs hleaves hnot text
  | group q =>
    have hnot : ∀ p, not p ∉ q.parts := by simpa [parts] using hnot
    exact upholds_eval hv q hleaves hnot text

theorem upholds_evalAll (hv : KeepsValues ctx ctx') (qs : List Query)
    (hleaves : ∀ l ∈ leavesOfAll qs, LeafUpheld ctx ctx' l)
    (hnot : ∀ p, not p ∉ partsOfAll qs) (text : Text) :
    Upholds (evalAll ctx qs text) (evalAll ctx' qs text) := by
  cases qs with
  | nil =>
    intro _ hf
    cases hf.unique (gives_pure true)
  | cons q qs =>
    simp only [leavesOfAll, partsOfAll, List.mem_append, not_or, or_imp, forall_and]
      at hleaves hnot
    intro ht hf
    obtain ⟨hq, hqs⟩ :=
      gives_and_true (transparent_eval ctx q text) (transparent_evalAll ctx qs text) ht
    rcases gives_and_false (transparent_eval ctx' q text) (transparent_evalAll ctx' qs text) hf
      with hq' | hqs'
    · exact upholds_eval hv q hleaves.1 hnot.1 text hq hq'
    · exact upholds_evalAll hv qs hleaves.2 hnot.2 text hqs hqs'

theorem upholds_evalAny (hv : KeepsValues ctx ctx') (qs : List Query)
    (hleaves : ∀ l ∈ leavesOfAll qs, LeafUpheld ctx ctx' l)
    (hnot : ∀ p, not p ∉ partsOfAll qs) (text : Text) :
    Upholds (evalAny ctx qs text) (evalAny ctx' qs text) := by
  cases qs with
  | nil =>
    intro ht _
    cases ht.unique (gives_pure false)
  | cons q qs =>
    simp only [leavesOfAll, partsOfAll, List.mem_append, not_or, or_imp, forall_and]
      at hleaves hnot
    intro ht hf
    obtain ⟨hq', hqs'⟩ :=
      gives_or_false (transparent_eval ctx' q text) (transparent_evalAny ctx' qs text) hf
    rcases gives_or_true (transparent_eval ctx q text) (transparent_evalAny ctx qs text) ht
      with hq | hqs
    · exact upholds_eval hv q hleaves.1 hnot.1 text hq hq'
    · exact upholds_evalAny hv qs hleaves.2 hnot.2 text hqs hqs'
end

end

section

variable {o : Options} {ds : List Text} (hds : o.delimiters = ds.map .literal) (hne : ds ≠ [])
  (hlit : [] ∉ ds)

include hds hne hlit

/-- A literal leaf that stands in a text with its case stands there without it. -/
theorem leafUpheld_caseless (hregexp : o.regexp = false) {l : Leaf} (hl : l.kind ≠ .pattern) :
    LeafUpheld
      { resolved := ⟨{ o with ignoreCase := false }, Delimiter.choice (ds.map escape)⟩ }
      { resolved := ⟨{ o with ignoreCase := true }, Delimiter.choice (ds.map escape)⟩ } l := by
  intro text ht hf
  let r (ignoreCase : Bool) : Resolved :=
    ⟨{ o with ignoreCase := ignoreCase }, Delimiter.choice (ds.map escape)⟩
  have hr (ignoreCase : Bool) : { o with ignoreCase := ignoreCase }.resolve = .ok (r ignoreCase) :=
    resolve_literals hds hne hlit
  have hkeeps (ignoreCase : Bool) : ∀ source, .pattern source ∈ o.delimiters →
      Delimiter.KeepsFlags ignoreCase source := by
    intro source hsource
    rw [hds] at hsource
    obtain ⟨d, -, hd⟩ := List.mem_map.1 hsource
    cases hd
  have hok : (CompiledTerm.compile (Context.key { resolved := r false } l)).isOk = true := by
    cases hcompile : CompiledTerm.compile (Context.key { resolved := r false } l) with
    | error e => cases ht.unique (gives_eval_leaf_error hcompile text)
    | ok t => rfl
  obtain ⟨F, f, -, hf', heval⟩ :=
    eval_iff_stands (hr false) (hkeeps false) hregexp hl hok
  obtain ⟨F', f', -, hf'', heval'⟩ :=
    eval_iff_stands (hr true) (hkeeps true) hregexp hl hok
  obtain rfl : f = f' := Except.ok.inj (hf'.symm.trans hf'')
  obtain ⟨b, hb, hiff⟩ := heval {} Cache.faithful_empty text
  obtain ⟨b', hb', hiff'⟩ := heval' {} Cache.faithful_empty text
  obtain rfl : b = true := Except.ok.inj (hb.symm.trans (ht {} Cache.faithful_empty).1)
  obtain rfl : b' = false := Except.ok.inj (hb'.symm.trans (hf {} Cache.faithful_empty).1)
  have hstands : f.Stands false (ds.map .literal) text := hds ▸ hiff.1 rfl
  cases hiff'.2 (hds ▸ hstands.caseless)

/-- Under literal delimiters a query of literal leaves without negations that holds of a text with
its case holds of it without, if it is decided at all. -/
theorem eval_caseless (hregexp : o.regexp = false) {q : Query}
    (hleaves : ∀ l ∈ q.leaves, l.kind ≠ .pattern) (hnot : ∀ p, not p ∉ q.parts) :
    ∃ r r', { o with ignoreCase := false }.resolve = .ok r ∧
      { o with ignoreCase := true }.resolve = .ok r' ∧
      ∀ c c' : Cache, c.Faithful → c'.Faithful → ∀ text b,
        (q.eval { resolved := r } text c).1 = .ok true →
        (q.eval { resolved := r' } text c').1 = .ok b → b = true := by
  let r (ignoreCase : Bool) : Resolved :=
    ⟨{ o with ignoreCase := ignoreCase }, Delimiter.choice (ds.map escape)⟩
  refine ⟨r false, r true, resolve_literals hds hne hlit, resolve_literals hds hne hlit,
    fun c c' hc hc' text b ht hb => ?_⟩
  have hvalues : KeepsValues { resolved := r false } { resolved := r true } :=
    fun _ _ _ _ => taggedFields_caseless
  have hleaf : ∀ l ∈ q.leaves, LeafUpheld { resolved := r false } { resolved := r true } l :=
    fun l hl => leafUpheld_caseless hds hne hlit hregexp (hleaves l hl)
  have hexact := (transparent_eval _ q text).gives hc ht
  cases b with
  | true => rfl
  | false =>
    have hcaseless := (transparent_eval _ q text).gives hc' hb
    exact (upholds_eval hvalues q hleaf hnot text hexact hcaseless).elim

end

/-- A field with another value behind its name in capitals, and a term whose case the text does not
keep: the disjunction holds by its second operand in one mode and by its first in the other. -/
theorem eval_caseless_capitals :
    let q : Query := .or [.word ['D', '~'], .field ['n'] [':'] (.group (.word ['a']))]
    let text : Text := ['N', ':', 'b', ' ', 'n', ':', 'a', ' ', 'd', 'e']
    ∃ r r', ({ ignoreCase := false } : Options).resolve = .ok r ∧
      ({ ignoreCase := true } : Options).resolve = .ok r' ∧
      (q.eval { resolved := r } text {}).1 = .ok true ∧
      ((Query.word ['D', '~']).eval { resolved := r } text {}).1 = .ok false ∧
      (q.eval { resolved := r' } text {}).1 = .ok true := by
  intro q text
  let o : Options := {}
  have hds : o.delimiters = [[' ']].map .literal := rfl
  have hleaves : ∀ l ∈ q.leaves, l.kind ≠ .pattern := by decide
  have hnot : ∀ p, not p ∉ q.parts := by simp [q, parts, partsOfAll, word]
  obtain ⟨r, r', hr, hr', h⟩ := eval_caseless hds (by simp) (by simp) rfl hleaves hnot
  have hfragment : ⟨{ o with ignoreCase := false }, Delimiter.choice [escape [' ']]⟩ = r :=
    Except.ok.inj hr
  have hfragment' : ⟨{ o with ignoreCase := true }, Delimiter.choice [escape [' ']]⟩ = r' :=
    Except.ok.inj hr'
  subst hfragment hfragment'
  have hexact : (q.eval { resolved := ⟨{ o with ignoreCase := false },
      Delimiter.choice [escape [' ']]⟩ } text {}).1 = .ok true := by decide +kernel
  obtain ⟨b, hb⟩ : ∃ b, (q.eval { resolved := ⟨{ o with ignoreCase := true },
      Delimiter.choice [escape [' ']]⟩ } text {}).1 = .ok b := ⟨true, by decide +kernel⟩
  obtain rfl := h {} {} Cache.faithful_empty Cache.faithful_empty text b hexact hb
  exact ⟨_, _, hr, hr', hexact, by decide +kernel, hb⟩

end Query

end TextSieve
