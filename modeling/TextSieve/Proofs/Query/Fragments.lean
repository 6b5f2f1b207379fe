import TextSieve.Proofs.Cache.Faithful
import TextSieve.Proofs.Field.Values

/-! Where fragments lie. Each is a stretch of the whole text that a leaf outside negations matched,
inside a value of every field that the leaf is in: what holds in a value of a field holds of the
shifted span in the text around it. What stands below a negation is not even looked at. -/

namespace TextSieve

/-- The spans lie in the text behind the place where the search begins, and each ends before the next
one starts. -/
theorem placed_termSpansFrom {r : Pattern.Regex} {text : Text} {n : Nat} {k : Pattern.Cursor}
    (hk : k.In text) :
    (∀ s ∈ termSpansFrom r n k, k.offset ≤ s.start ∧ s.Within text) ∧
      (termSpansFrom r n k).Pairwise (·.stop ≤ ·.start) := by
  induction n generalizing k with
  | zero => simp [termSpansFrom]
  | succ n ih =>
    unfold termSpansFrom
    split
    · simp
    · rename_i span hspan
      obtain ⟨f, hf, hspan⟩ := Option.bind_eq_some_iff.1 hspan
      obtain ⟨hstart, hwithin⟩ := (Pattern.Regex.sound_of_search hk hf).group? hspan
      have hcons : ∀ {m : Pattern.Cursor}, m.In text → span.stop ≤ m.offset →
          (∀ s ∈ span :: termSpansFrom r n m, k.offset ≤ s.start ∧ s.Within text) ∧
            (span :: termSpansFrom r n m).Pairwise (·.stop ≤ ·.start) := by
        intro m hm hle
        obtain ⟨hall, hpair⟩ := ih hm
        have hbehind : ∀ s ∈ termSpansFrom r n m, span.stop ≤ s.start := fun s hs =>
          Nat.le_trans hle (hall s hs).1
        refine ⟨List.forall_mem_cons.2 ⟨⟨hstart, hwithin⟩, fun s hs => ⟨?_, (hall s hs).2⟩⟩,
          List.pairwise_cons.2 ⟨hbehind, hpair⟩⟩
        exact Nat.le_trans hstart (Nat.le_trans hwithin.start_le (hbehind s hs))
      split
      · obtain ⟨hmoved, hle⟩ := hk.moveTo span.stop
        exact hcons hmoved (hle hwithin.stop_le)
      · rename_i hstop
        have hle : span.stop ≤ k.offset := Nat.le_of_not_lt hstop
        split
        · simp [hstart, hwithin]
        · rename_i c rest hrest
          exact hcons (hk.past hrest) (Nat.le_trans hle (Nat.le_add_right _ _))

theorem within_of_mem_termSpans (r : Pattern.Regex) (text : Text) :
    ∀ s ∈ termSpans r text, s.Within text :=
  fun s hs => ((placed_termSpansFrom (.start text)).1 s hs).2

theorem pairwise_termSpans (r : Pattern.Regex) (text : Text) :
    (termSpans r text).Pairwise (·.stop ≤ ·.start) :=
  (placed_termSpansFrom (.start text)).2

section

variable {α β : Type}

/-- What the computation answers has the property, whatever the cache holds. -/
def Answers (act : Cached α) (P : α → Prop) : Prop :=
  ∀ c a, (act c).1 = .ok a → P a

theorem answers_pure {P : α → Prop} {a : α} (h : P a) : Answers (pure a) P := by
  intro c b hb
  obtain rfl := Except.ok.inj hb
  exact h

theorem answers_liftExcept {P : α → Prop} {x : Except Error α} (h : ∀ a, x = .ok a → P a) :
    Answers (liftExcept x) P := by
  intro c a ha
  cases x with
  | ok b => exact h a (congrArg _ (Except.ok.inj ha))
  | error e => cases ha

theorem Answers.bind {act : Cached α} {f : α → Cached β} {P : α → Prop} {Q : β → Prop}
    (h : Answers act P) (hf : ∀ a, P a → Answers (f a) Q) : Answers (act >>= f) Q := by
  intro c b hb
  rw [Cached.bind_apply] at hb
  rcases hact : act c with ⟨e | a, c'⟩
  · simp [hact] at hb
  · rw [hact] at hb
    exact hf a (h c a (congrArg Prod.fst hact)) c' b hb

theorem answers_of_forall {act : Cached α} {P : α → Prop} (h : ∀ a, P a) : Answers act P :=
  fun _ a _ => h a

end

namespace Query

mutual
/-- The leaves outside negations, each with the names of the fields it is in, outermost first. -/
def positives : Query → List (List Text × Leaf)
  | leaf l => [([], l)]
  | field name _ q => (positives q).map fun p => (name :: p.1, p.2)
  | not _ => []
  | and qs | or qs => positivesOfAll qs
  | group q => positives q

def positivesOfAll : List Query → List (List Text × Leaf)
  | [] => []
  | q :: qs => positives q ++ positivesOfAll qs
end

/-- The second query is the first with another child below one of its negations. -/
inductive Renegated : Query → Query → Prop
  | not (a b : Query) : Renegated (not a) (not b)
  | field {a b : Query} (name d : Text) :
    Renegated a b → Renegated (field name d a) (field name d b)
  | and {a b : Query} (before after : List Query) :
    Renegated a b → Renegated (and (before ++ a :: after)) (and (before ++ b :: after))
  | or {a b : Query} (before after : List Query) :
    Renegated a b → Renegated (or (before ++ a :: after)) (or (before ++ b :: after))
  | group {a b : Query} : Renegated a b → Renegated (group a) (group b)

end Query

/-- The span lies in a value of the first field, inside that value in one of the second, and so on
down to the text of the innermost value. -/
def Context.InValues (ctx : Context) : List Text → Text → Span → Prop
  | [], text, s => s.Within text
  | name :: path, text, s =>
    ∃ values, ctx.extractor ctx.resolved text name = .ok values ∧
      ∃ v ∈ values, v.start ≤ s.start ∧ s.stop ≤ v.stop ∧
        ctx.InValues path (text.slice v) ⟨s.start - v.start, s.stop - v.start⟩

def Context.ValuesWithin (ctx : Context) : Prop :=
  ∀ text name values, ctx.extractor ctx.resolved text name = .ok values →
    ∀ v ∈ values, v.Within text

theorem Context.valuesWithin_taggedFields (r : Resolved) : ValuesWithin { resolved := r } :=
  fun _ _ _ => within_of_taggedFields

namespace Fragment

def shift (n : Nat) (f : Fragment) : Fragment := { f with span := f.span.shift n }

theorem shift_shift (m n : Nat) (f : Fragment) : (f.shift m).shift n = f.shift (n + m) := by
  simp [shift, Span.shift, Nat.add_assoc]

theorem shift_zero (f : Fragment) : f.shift 0 = f := by
  simp [shift, Span.shift]

/-- The fragment is a stretch of the text, matched by one of the leaves in values of its fields. -/
structure Placed (ctx : Context) (leaves : List (List Text × Leaf)) (text : Text) (f : Fragment) :
    Prop where
  within : f.span.Within text
  slice_eq : text.slice f.span = f.text
  exists_leaf : ∃ path l, (path, l) ∈ leaves ∧ f.term = l.text ∧ ctx.InValues path text f.span

variable {ctx : Context} {leaves leaves' : List (List Text × Leaf)} {text : Text} {f : Fragment}

theorem Placed.mono (h : f.Placed ctx leaves text) (hsub : leaves ⊆ leaves') :
    f.Placed ctx leaves' text := by
  obtain ⟨path, l, hl, hrest⟩ := h.exists_leaf
  exact ⟨h.within, h.slice_eq, path, l, hsub hl, hrest⟩

/-- From the value of a field to the text around it. -/
theorem Placed.field {name : Text} {values : List Span} {v : Span}
    (hvalues : ctx.extractor ctx.resolved text name = .ok values) (hmem : v ∈ values)
    (hv : v.Within text) (h : f.Placed ctx leaves (text.slice v)) :
    (f.shift v.start).Placed ctx (leaves.map fun p => (name :: p.1, p.2)) text where
  within := hv.shift h.within
  slice_eq := (Span.slice_shift hv h.within).trans h.slice_eq
  exists_leaf := by
    obtain ⟨path, l, hl, hterm, hin⟩ := h.exists_leaf
    refine ⟨name :: path, l, List.mem_map.2 ⟨_, hl, rfl⟩, hterm, values, hvalues, v, hmem,
      ?_, ?_, ?_⟩
    · simp [shift, Span.shift]
    · exact Span.stop_shift_le hv h.within
    · simpa [shift, Span.shift] using hin

end Fragment

namespace Query

def Places (ctx : Context) (leaves : List (List Text × Leaf)) (text : Text) (offset : Nat)
    (fs : List Fragment) : Prop :=
  ∀ f ∈ fs, ∃ g : Fragment, g.Placed ctx leaves text ∧ f = g.shift offset

variable {ctx : Context} {leaves leaves' : List (List Text × Leaf)} {text : Text} {offset : Nat}

theorem places_nil : Places ctx leaves text offset [] := by
  simp [Places]

theorem Places.append {fs gs : List Fragment} (h : Places ctx leaves text offset fs)
    (h' : Places ctx leaves' text offset gs) :
    Places ctx (leaves ++ leaves') text offset (fs ++ gs) := by
  intro f hf
  rcases List.mem_append.1 hf with hf | hf
  · obtain ⟨g, hg, rfl⟩ := h f hf
    exact ⟨g, hg.mono (List.subset_append_left ..), rfl⟩
  · obtain ⟨g, hg, rfl⟩ := h' f hf
    exact ⟨g, hg.mono (List.subset_append_right ..), rfl⟩

theorem answers_leafFragments (l : Leaf) (text : Text) (offset : Nat) :
    Answers (leafFragments ctx l text offset) (Places ctx [([], l)] text offset) := by
  refine Answers.bind (P := fun _ => True) (answers_of_forall fun _ => trivial) fun t _ => ?_
  refine answers_pure fun f hf => ?_
  obtain ⟨s, hs, rfl⟩ := List.mem_map.1 hf
  have hwithin := within_of_mem_termSpans _ _ s hs
  refine ⟨⟨l.text, s, text.slice s⟩, ⟨hwithin, rfl, [], l, by simp, rfl, hwithin⟩, rfl⟩

theorem answers_sliceFragments {find : Text → Nat → Cached (List Fragment)} {name : Text}
    {values : List Span} (hvalues : ctx.extractor ctx.resolved text name = .ok values)
    (hfind : ∀ t n, Answers (find t n) (Places ctx leaves t n)) (vs : List Span)
    (hvs : ∀ v ∈ vs, v ∈ values ∧ v.Within text) :
    Answers (sliceFragments find text offset vs)
      (Places ctx (leaves.map fun p => (name :: p.1, p.2)) text offset) := by
  induction vs with
  | nil => exact answers_pure places_nil
  | cons v rest ih =>
    obtain ⟨⟨hmem, hv⟩, hrest⟩ := List.forall_mem_cons.1 hvs
    refine (hfind _ _).bind fun here hhere => (ih hrest).bind fun others hothers => ?_
    refine answers_pure fun f hf => ?_
    rcases List.mem_append.1 hf with hf | hf
    · obtain ⟨g, hg, rfl⟩ := hhere f hf
      exact ⟨g.shift v.start, hg.field hvalues hmem hv, (g.shift_shift ..).symm⟩
    · exact hothers f hf

mutual
theorem answers_fragmentsAt (hctx : ctx.ValuesWithin) (q : Query) (text : Text) (offset : Nat) :
    Answers (fragmentsAt ctx q text offset) (Places ctx q.positives text offset) := by
  cases q with
  | leaf l =>
    rw [fragmentsAt, positives]
    exact answers_leafFragments l text offset
  | field name d q =>
    rw [fragmentsAt, positives]
    refine (answers_liftExcept fun _ h => h).bind fun values hvalues => ?_
    exact answers_sliceFragments hvalues (answers_fragmentsAt hctx q) values
      fun v hv => ⟨hv, hctx _ _ _ hvalues v hv⟩
  | not q =>
    rw [fragmentsAt]
    exact answers_pure places_nil
  | and qs =>
    rw [fragmentsAt, positives]
    exact answers_fragmentsOfAll hctx qs text offset
  | or qs =>
    rw [fragmentsAt, positives]
    exact answers_fragmentsOfAll hctx qs text offset
  | group q =>
    rw [fragmentsAt, positives]
    exact answers_fragmentsAt hctx q text offset

theorem answers_fragmentsOfAll (hctx : ctx.ValuesWithin) (qs : List Query) (text : Text)
    (offset : Nat) :
    Answers (fragmentsOfAll ctx qs text offset) (Places ctx (positivesOfAll qs) text offset) := by
  cases qs with
  | nil =>
    rw [fragmentsOfAll]
    exact answers_pure places_nil
  | cons q qs =>
    rw [fragmentsOfAll, positivesOfAll]
    refine (answers_fragmentsAt hctx q text offset).bind fun here hhere => ?_
    refine (answers_fragmentsOfAll hctx qs text offset).bind fun others hothers => ?_
    exact answers_pure (hhere.append hothers)
end

theorem fragmentsOfAll_append_cons {a b : Query}
    (h : fragmentsAt ctx a text offset = fragmentsAt ctx b text offset)
    (before after : List Query) :
    fragmentsOfAll ctx (before ++ a :: after) text offset =
      fragmentsOfAll ctx (before ++ b :: after) text offset := by
  induction before with
  | nil => simp only [List.nil_append, fragmentsOfAll, h]
  | cons q qs ih => simp only [List.cons_append, fragmentsOfAll, ih]

/-- A negation has no fragments, whatever its child is. -/
theorem Renegated.fragmentsAt_eq {a b : Query} (h : Renegated a b) :
    fragmentsAt ctx a = fragmentsAt ctx b := by
  induction h with
  | not a b => funext text offset; simp only [fragmentsAt]
  | field name d _ ih => funext text offset; simp only [fragmentsAt, ih]
  | and before after _ ih =>
    funext text offset
    simp only [fragmentsAt]
    exact fragmentsOfAll_append_cons (by rw [ih]) before after
  | or before after _ ih =>
    funext text offset
    simp only [fragmentsAt]
    exact fragmentsOfAll_append_cons (by rw [ih]) before after
  | group _ ih => funext text offset; simp only [fragmentsAt, ih]

/-- Fragments are stretches of the whole text that leaves outside negations matched, each inside a
value of every field that its leaf is in. Another child of a negation changes neither the fragments
nor the error, if there is one. -/
theorem placed_of_fragments (ctx : Context) (hctx : ctx.ValuesWithin) (q : Query) (text : Text) :
    (∀ c fs, (q.fragments ctx text c).1 = .ok fs →
      ∀ f ∈ fs, f.Placed ctx q.positives text) ∧
    ∀ q', Renegated q q' → q'.fragments ctx text = q.fragments ctx text := by
  constructor
  · intro c fs hfs f hf
    obtain ⟨g, hg, rfl⟩ := answers_fragmentsAt hctx q text 0 c fs hfs f hf
    rwa [g.shift_zero]
  · intro q' h
    exact congrFun₂ h.fragmentsAt_eq.symm text 0

/-- A term in a field in a field, and a negation whose child turns into one that does not compile.
-/
theorem placed_of_fragments_nested :
    let q (a : Query) : Query :=
      .and [.field ['a'] [':'] (.field ['b'] [':'] (.word ['c', 'a', 't'])), .not a]
    ∃ r, ({ ignoreCase := false } : Options).resolve = .ok r ∧
      ((q (.word ['x'])).fragments { resolved := r }
        ['é', ' ', 'a', ':', 'b', ':', 'c', 'a', 't'] {}).1 =
          .ok [⟨['c', 'a', 't'], ⟨7, 10⟩, ['c', 'a', 't']⟩] ∧
      (⟨['c', 'a', 't'], ⟨7, 10⟩, ['c', 'a', 't']⟩ : Fragment).Placed { resolved := r }
        [([['a'], ['b']], ⟨.word, ['c', 'a', 't']⟩)]
        ['é', ' ', 'a', ':', 'b', ':', 'c', 'a', 't'] ∧
      (q (.pattern ['('])).fragments { resolved := r }
          ['é', ' ', 'a', ':', 'b', ':', 'c', 'a', 't'] =
        (q (.word ['x'])).fragments { resolved := r }
          ['é', ' ', 'a', ':', 'b', ':', 'c', 'a', 't'] := by
  intro q
  let r : Resolved := ⟨{ ignoreCase := false }, Delimiter.choice [Pattern.escape [' ']]⟩
  have hr : ({ ignoreCase := false } : Options).resolve = .ok r := rfl
  obtain ⟨hplaced, hsame⟩ := placed_of_fragments { resolved := r }
    (Context.valuesWithin_taggedFields r) (q (.word ['x']))
    ['é', ' ', 'a', ':', 'b', ':', 'c', 'a', 't']
  have hfs : ((q (.word ['x'])).fragments { resolved := r }
      ['é', ' ', 'a', ':', 'b', ':', 'c', 'a', 't'] {}).1 =
        .ok [⟨['c', 'a', 't'], ⟨7, 10⟩, ['c', 'a', 't']⟩] := by decide +kernel
  refine ⟨r, hr, hfs, hplaced {} _ hfs _ (List.mem_cons_self ..), hsame _ ?_⟩
  exact .and [_] [] (.not (.word ['x']) (.pattern ['(']))

end Query

end TextSieve
