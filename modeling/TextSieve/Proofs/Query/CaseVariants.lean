import TextSieve.Proofs.Cache.Faithful
import TextSieve.Proofs.Field.CaseVariants

/-! Queries on texts that differ in case. A literal term cannot tell such texts apart where case is
ignored, so a query without fields has the same answer on both; and a query with fields has if the
texts do not differ in what tags are told by. -/

namespace TextSieve

open Pattern Reader

section

variable {z : Aligned} (hcase : z.InCase)

include hcase

theorem blind_caseless_letters (d : Text) : ∀ r ∈ d.map (Reader.letter true), r.Blind z := by
  intro r hr
  obtain ⟨c, -, rfl⟩ := List.mem_map.1 hr
  intro p hp
  simp [CharSet.contains, hcase p hp]

theorem blind_anyOf (ds : List Text) : (anyOf true ds).Blind z := by
  refine Regex.blind_alts fun r hr => ?_
  obtain ⟨d, -, rfl⟩ := List.mem_map.1 hr
  exact Regex.blind_cats (blind_caseless_letters hcase d)

theorem Wildcard.blind_regexes (w : Option Wildcard) : ∀ r ∈ regexes w, r.Blind z := by
  have hany : (Regex.one anyButNewline).Blind z := by
    intro p hp
    have hnewline : p.1 = '\n' ↔ p.2 = '\n' := Unicode.eq_iff_of_fold_eq (hcase p hp) (by decide)
    simp [anyButNewline, CharSet.contains, beq_eq_decide, hnewline]
  intro r hr
  rcases w with _ | _ | n
  · cases hr
  · obtain rfl := List.mem_singleton.1 hr
    exact hany
  · obtain rfl := List.mem_singleton.1 hr
    exact hany.repeated n (some n) true

theorem FuzzyTerm.blind_regexes (f : FuzzyTerm) : ∀ r ∈ f.regexes true, r.Blind z := by
  intro r hr
  simp only [FuzzyTerm.regexes, List.mem_append] at hr
  rcases hr with (hr | hr) | hr
  · exact Wildcard.blind_regexes hcase _ r hr
  · exact blind_caseless_letters hcase _ r hr
  · exact Wildcard.blind_regexes hcase _ r hr

/-- A literal term matches both texts or neither. -/
theorem isMatch_eq_of_inCase {ds : List Text} (hne : ds ≠ []) {k : TermKey} {t : CompiledTerm}
    (hk : k.asPattern = false) (hfragment : k.fragment = Delimiter.choice (ds.map escape))
    (ht : CompiledTerm.compile k = .ok t) : t.isMatch true z.left = t.isMatch true z.right := by
  obtain ⟨f, hf⟩ := exists_parse_of_compile ht
  unfold CompiledTerm.isMatch
  rw [matcher_eq_delimited hne hk hfragment ht hf]
  have hdelimiter := blind_anyOf hcase ds
  exact Regex.isMatch_eq_of_blind ⟨⟨Regex.blind_textStart, hdelimiter⟩,
    Regex.blind_cats (FuzzyTerm.blind_regexes hcase f), hdelimiter, Regex.blind_textStop⟩

end

def SameAnswer {α : Type} (act act' : Cached α) : Prop :=
  ∃ x, Gives act x ∧ Gives act' x

section

variable {α β : Type}

theorem sameAnswer_pure (a : α) : SameAnswer (pure a) (pure a) :=
  ⟨.ok a, gives_pure a, gives_pure a⟩

theorem SameAnswer.bind {act act' : Cached α} {f f' : α → Cached β} (h : SameAnswer act act')
    (hf : ∀ a, SameAnswer (f a) (f' a)) : SameAnswer (act >>= f) (act' >>= f') := by
  obtain ⟨e | a, hact, hact'⟩ := h
  · exact ⟨.error e, hact.bind_error, hact'.bind_error⟩
  · obtain ⟨x, hx, hx'⟩ := hf a
    exact ⟨x, hact.bind_ok hx, hact'.bind_ok hx'⟩

theorem SameAnswer.ite {p : Prop} [Decidable p] {act act' act₂ act₂' : Cached α}
    (h : SameAnswer act act') (h₂ : SameAnswer act₂ act₂') :
    SameAnswer (if p then act else act₂) (if p then act' else act₂') := by
  split
  · exact h
  · exact h₂

end

namespace Query

mutual
def fields : Query → List Text
  | leaf _ => []
  | field name _ q => name :: fields q
  | not q | group q => fields q
  | and qs | or qs => fieldsOfAll qs

def fieldsOfAll : List Query → List Text
  | [] => []
  | q :: qs => fields q ++ fieldsOfAll qs
end

theorem sameAnswer_anySlice {test : Text → Cached Bool} {z : Aligned}
    (h : ∀ w : Aligned, w.Sublist z → SameAnswer (test w.left) (test w.right))
    {spans spans' : List Span} (hspans : List.Forall₂ z.Spans spans spans') :
    SameAnswer (anySlice test z.left spans) (anySlice test z.right spans') := by
  induction hspans with
  | nil => exact sameAnswer_pure false
  | cons hs _ ih =>
    obtain ⟨w, hw, hleft, hright⟩ := hs.exists_slice
    unfold anySlice
    rw [hleft, hright]
    exact (h w hw).bind fun b => .ite (sameAnswer_pure true) ih

/-- Literal terms without their case, and fields, between literal delimiters. -/
structure Caseless (ctx : Context) (ds : List Text) : Prop where
  ne_nil : ds ≠ []
  fragment : ctx.resolved.fragment = Delimiter.choice (ds.map escape)
  ignoreCase : ctx.resolved.options.ignoreCase = true
  regexp : ctx.resolved.options.regexp = false
  extractor : ctx.extractor = taggedFields

def Indifferent (ctx : Context) (ds names : List Text) (z : Aligned) : Prop :=
  ∀ name ∈ names, ∀ a ∈ ctx.resolved.options.activeAttributeDelimiter,
    ∀ p ∈ z, Tag.Indifferent ds a name p.1 p.2

variable {ctx : Context} {ds names : List Text} {z : Aligned}

theorem Indifferent.sublist (h : Indifferent ctx ds names z) {w : Aligned} (hw : w.Sublist z) :
    Indifferent ctx ds names w :=
  fun name hname a ha p hp => h name hname a ha p (hw.subset hp)

theorem sameAnswer_leaf (h : Caseless ctx ds) {l : Leaf} (hl : l.kind ≠ .pattern)
    (hcase : z.InCase) : SameAnswer (eval ctx (leaf l) z.left) (eval ctx (leaf l) z.right) := by
  cases hcompile : CompiledTerm.compile (ctx.key l) with
  | error e => exact ⟨_, gives_eval_leaf_error hcompile _, gives_eval_leaf_error hcompile _⟩
  | ok t =>
    have hk : (ctx.key l).asPattern = false := by
      simp [Context.key, h.regexp, Leaf.isPattern, hl]
    have hmatch : t.isMatch ctx.ignoreCase z.left = t.isMatch ctx.ignoreCase z.right := by
      rw [show ctx.ignoreCase = true from h.ignoreCase]
      exact isMatch_eq_of_inCase hcase h.ne_nil hk h.fragment hcompile
    refine ⟨_, gives_eval_leaf hcompile _, ?_⟩
    rw [hmatch]
    exact gives_eval_leaf hcompile _

theorem sameAnswer_field (h : Caseless ctx ds) {name d : Text} {q : Query} (hcase : z.InCase)
    (hname : Indifferent ctx ds [name] z)
    (hinner : ∀ w : Aligned, w.Sublist z → SameAnswer (eval ctx q w.left) (eval ctx q w.right)) :
    SameAnswer (eval ctx (field name d q) z.left) (eval ctx (field name d q) z.right) := by
  have hvalues : ∀ {text x}, taggedFields ctx.resolved text name = x →
      Gives (ctx.values text name) x := by
    rintro text _ rfl
    unfold Context.values
    rw [h.extractor]
    exact gives_liftExcept _
  rw [eval, eval]
  rcases rel_taggedFields h.ne_nil h.fragment h.ignoreCase hcase (hname name (by simp)) with
    ⟨e, hleft, hright⟩ | ⟨spans, spans', hleft, hright, hspans⟩
  · exact ⟨.error e, (hvalues hleft).bind_error, (hvalues hright).bind_error⟩
  · obtain ⟨x, hx, hx'⟩ := sameAnswer_anySlice hinner hspans
    exact ⟨x, (hvalues hleft).bind_ok hx, (hvalues hright).bind_ok hx'⟩

mutual
/-- By induction on the query. The values of a field are parts of two texts that differ in case, and
do so themselves. -/
theorem sameAnswer_eval (h : Caseless ctx ds) (q : Query)
    (hleaves : ∀ l ∈ q.leaves, l.kind ≠ .pattern) (z : Aligned) (hcase : z.InCase)
    (hfields : Indifferent ctx ds q.fields z) :
    SameAnswer (eval ctx q z.left) (eval ctx q z.right) := by
  cases q with
  | leaf l => exact sameAnswer_leaf h (hleaves l (by simp [leaves])) hcase
  | field name d q =>
    obtain ⟨hname, hinner⟩ := List.forall_mem_cons.1 hfields
    refine sameAnswer_field h hcase (by simpa [Indifferent] using hname) fun w hw => ?_
    exact sameAnswer_eval h q hleaves w (hcase.sublist hw) (Indifferent.sublist hinner hw)
  | not q =>
    rw [eval, eval]
    exact (sameAnswer_eval h q hleaves z hcase hfields).bind fun b => sameAnswer_pure _
  | and qs =>
    rw [eval, eval]
    exact sameAnswer_evalAll h qs hleaves z hcase hfields
  | or qs =>
    rw [eval, eval]
    exact sameAnswer_evalAny h qs hleaves z hcase hfields
  | group q =>
    rw [eval, eval]
    exact sameAnswer_eval h q hleaves z hcase hfields

theorem sameAnswer_evalAll (h : Caseless ctx ds) (qs : List Query)
    (hleaves : ∀ l ∈ leavesOfAll qs, l.kind ≠ .pattern) (z : Aligned) (hcase : z.InCase)
    (hfields : Indifferent ctx ds (fieldsOfAll qs) z) :
    SameAnswer (evalAll ctx qs z.left) (evalAll ctx qs z.right) := by
  cases qs with
  | nil =>
    rw [evalAll, evalAll]
    exact sameAnswer_pure true
  | cons q qs =>
    obtain ⟨hleaf, hleaves⟩ := List.forall_mem_append.1 hleaves
    obtain ⟨hfield, hfields⟩ := List.forall_mem_append.1 hfields
    rw [evalAll, evalAll]
    exact (sameAnswer_eval h q hleaf z hcase hfield).bind fun b =>
      .ite (sameAnswer_evalAll h qs hleaves z hcase hfields) (sameAnswer_pure false)

theorem sameAnswer_evalAny (h : Caseless ctx ds) (qs : List Query)
    (hleaves : ∀ l ∈ leavesOfAll qs, l.kind ≠ .pattern) (z : Aligned) (hcase : z.InCase)
    (hfields : Indifferent ctx ds (fieldsOfAll qs) z) :
    SameAnswer (evalAny ctx qs z.left) (evalAny ctx qs z.right) := by
  cases qs with
  | nil =>
    rw [evalAny, evalAny]
    exact sameAnswer_pure false
  | cons q qs =>
    obtain ⟨hleaf, hleaves⟩ := List.forall_mem_append.1 hleaves
    obtain ⟨hfield, hfields⟩ := List.forall_mem_append.1 hfields
    rw [evalAny, evalAny]
    exact (sameAnswer_eval h q hleaf z hcase hfield).bind fun b =>
      .ite (sameAnswer_pure true) (sameAnswer_evalAny h qs hleaves z hcase hfields)
end

/-- Under literal delimiters and without case, a query of literal leaves has the same answer, be it
an error, on texts that differ in case only, if tags of its fields stay as they are from one text to
the other. A query without fields has it on all such texts. -/
theorem eval_caseVariants {o : Options} {ds : List Text} (hds : o.delimiters = ds.map .literal)
    (hne : ds ≠ []) (hlit : [] ∉ ds) (hignore : o.ignoreCase = true) (hregexp : o.regexp = false)
    {q : Query} (hleaves : ∀ l ∈ q.leaves, l.kind ≠ .pattern) {t t' : Text}
    (hfold : t.map Unicode.fold = t'.map Unicode.fold)
    (hfields : ∀ name ∈ q.fields, ∀ a ∈ o.activeAttributeDelimiter,
      List.Forall₂ (Tag.Indifferent ds a name) t t') :
    ∃ r, o.resolve = .ok r ∧ ∀ c c' : Cache, c.Faithful → c'.Faithful →
      (q.eval { resolved := r } t c).1 = (q.eval { resolved := r } t' c').1 := by
  let r : Resolved := ⟨o, Delimiter.choice (ds.map escape)⟩
  have hpairs : List.Forall₂ (fun c c' => Unicode.fold c = Unicode.fold c') t t' := by
    rw [← List.forall₂_eq_eq_eq, List.forall₂_map_left_iff, List.forall₂_map_right_iff] at hfold
    exact hfold
  obtain ⟨z, rfl, rfl, hcase⟩ := Aligned.exists_of_forall₂ hpairs
  have hcaseless : Caseless { resolved := r } ds := ⟨hne, rfl, hignore, hregexp, rfl⟩
  obtain ⟨x, hx, hx'⟩ := sameAnswer_eval hcaseless q hleaves z hcase
    fun name hname a ha => Aligned.forall₂_iff.1 (hfields name hname a ha)
  refine ⟨r, resolve_literals hds hne hlit, fun c c' hc hc' => ?_⟩
  rw [(hx c hc).1, (hx' c' hc').1]

/-- A field in another case of its name and its value, and a negated one. Neither `s` nor `ſ`,
which have different lowercase forms, is in a name. -/
theorem eval_caseVariants_negated :
    let q : Query := .and [.field ['f'] [':'] (.word ['c', 'a', 't']),
      .not (.field ['b'] [':'] (.word ['x']))]
    let t : Text := ['F', ':', 'C', 'a', 'T', ' ', 's', ' ', 'b', ':', 'y']
    let t' : Text := ['f', ':', 'c', 'a', 't', ' ', 'ſ', ' ', 'B', ':', 'Y']
    t.map Unicode.fold = t'.map Unicode.fold ∧
      (∀ name ∈ q.fields, List.Forall₂ (Tag.Indifferent [[' ']] [':'] name) t t') ∧
      ∃ r, ({} : Options).resolve = .ok r ∧
        (q.eval { resolved := r } t {}).1 = (q.eval { resolved := r } t' {}).1 := by
  intro q t t'
  have hfold : t.map Unicode.fold = t'.map Unicode.fold := by decide +kernel
  have hpairs : ∀ name ∈ q.fields,
      ((t.zip t').all fun p => Tag.Indifferent [[' ']] [':'] name p.1 p.2) = true := by
    decide +kernel
  have hfields : ∀ name ∈ q.fields, List.Forall₂ (Tag.Indifferent [[' ']] [':'] name) t t' := by
    intro name hname
    have hall := List.all_eq_true.1 (hpairs name hname)
    exact Aligned.forall₂_iff.2 fun p hp => of_decide_eq_true (hall p hp)
  refine ⟨hfold, hfields, ?_⟩
  have hds : ({} : Options).delimiters = [[' ']].map .literal := rfl
  have hleaves : ∀ l ∈ q.leaves, l.kind ≠ .pattern := by decide
  obtain ⟨r, hr, h⟩ := eval_caseVariants hds (by simp) (by simp) rfl rfl hleaves hfold
    fun name hname a ha => by
      cases ha
      exact hfields name hname
  exact ⟨r, hr, h {} {} Cache.faithful_empty Cache.faithful_empty⟩

/-- A sigma at the end of the name of a field, where the lowercase form of the capital one is the
final sigma; and a delimiter that is a letter, which the pattern of a tag has with its case. -/
theorem eval_capitals_differ :
    (∃ r, ({} : Options).resolve = .ok r ∧
      let q : Query := .field ['a', 'σ'] [':'] (.word ['c'])
      let t : Text := ['a', 'σ', ':', 'c']
      let t' : Text := ['a', 'Σ', ':', 'c']
      t.map Unicode.fold = t'.map Unicode.fold ∧
        (q.eval { resolved := r } t {}).1 = .ok true ∧
        (q.eval { resolved := r } t' {}).1 = .ok false) ∧
    ∃ r, ({ delimiters := [.literal ['x']] } : Options).resolve = .ok r ∧
      let q : Query := .field ['f'] [':'] (.word ['c'])
      let t : Text := ['!', 'x', 'f', ':', 'c']
      let t' : Text := ['!', 'X', 'f', ':', 'c']
      t.map Unicode.fold = t'.map Unicode.fold ∧
        (q.eval { resolved := r } t {}).1 = .ok true ∧
        (q.eval { resolved := r } t' {}).1 = .ok false := by
  refine ⟨⟨_, rfl, ?_⟩, ⟨_, rfl, ?_⟩⟩
  · exact ⟨by decide +kernel, by decide +kernel, by decide +kernel⟩
  · exact ⟨by decide +kernel, by decide +kernel, by decide +kernel⟩

end Query

end TextSieve
