import Mathlib.Data.List.Pairwise
import TextSieve.Proofs.Field.Soundness
import TextSieve.Proofs.Query.Agreement
import TextSieve.Proofs.Query.Fragments

/-! The order of fragments. What is found is ordered by the way that led to it: by the number of the
operand at each conjunction and disjunction, by the number of the value at each field, and then by
its place in the text. The fragments of one leaf are therefore in the order of the text; those of
different leaves are in the order of the leaves as long as no field with several leaves has several
values. -/

namespace TextSieve

/-- A match of a leaf outside negations: the way to it (the number of the operand at each
conjunction and disjunction and of the value at each field), the number of the leaf among all
leaves, the leaf, and where it matched. -/
structure Sighting where
  route : List Nat
  place : Nat
  leaf : Leaf
  span : Span

namespace Sighting

/-- The sighting seen from the query around, which leads to it by its `n`-th way, has `skip` leaves
in front and sees the text from `start` on. -/
def below (n skip start : Nat) (x : Sighting) : Sighting :=
  ⟨n :: x.route, skip + x.place, x.leaf, x.span.shift start⟩

def fragment (text : Text) (x : Sighting) : Fragment :=
  ⟨x.leaf.text, x.span, text.slice x.span⟩

/-- The first sighting is on an earlier way, or earlier in the text on the same way. -/
def Before (x y : Sighting) : Prop :=
  x.route < y.route ∨ x.route = y.route ∧ x.span.stop ≤ y.span.start

end Sighting

def Context.ValuesApart (ctx : Context) : Prop :=
  ∀ text name values, ctx.extractor ctx.resolved text name = .ok values →
    values.Pairwise (·.stop ≤ ·.start)

theorem Context.valuesApart_taggedFields (r : Resolved) : ValuesApart { resolved := r } := by
  intro text name values h
  rcases taggedFields_eq_ok h with ⟨-, rfl⟩ | ⟨a, tags, -, htags, rfl⟩
  · exact .nil
  · have hasc := Tag.ascending_of_all htags
    rw [Tag.values_eq]
    exact ((Tag.pairwise_valued (Tag.within_of_all htags).1 hasc).filter _).map _ fun _ _ h => h.2

namespace Query

/-- What the leaves outside negations match. -/
inductive Finds (ctx : Context) : Query → Text → Sighting → Prop
  | leaf {l : Leaf} {text : Text} {t : CompiledTerm} {s : Span}
      (ht : CompiledTerm.compile (ctx.key l) = .ok t)
      (hs : s ∈ termSpans (t.matcher ctx.ignoreCase) text) : Finds ctx (leaf l) text ⟨[], 0, l, s⟩
  | field {name d : Text} {q : Query} {text : Text} {before after : List Span} {v : Span}
      {x : Sighting}
      (hvalues : ctx.extractor ctx.resolved text name = .ok (before ++ v :: after))
      (hx : Finds ctx q (text.slice v) x) :
      Finds ctx (field name d q) text (x.below before.length 0 v.start)
  | and {before after : List Query} {q : Query} {text : Text} {x : Sighting}
      (hx : Finds ctx q text x) :
      Finds ctx (and (before ++ q :: after)) text
        (x.below before.length (leavesOfAll before).length 0)
  | or {before after : List Query} {q : Query} {text : Text} {x : Sighting}
      (hx : Finds ctx q text x) :
      Finds ctx (or (before ++ q :: after)) text
        (x.below before.length (leavesOfAll before).length 0)
  | group {q : Query} {text : Text} {x : Sighting} (hx : Finds ctx q text x) :
      Finds ctx (group q) text x

mutual
/-- No field with several leaves outside negations has several values. -/
def Unrepeated (ctx : Context) : Query → Text → Prop
  | leaf _, _ | not _, _ => True
  | field name _ q, text =>
    ∀ values, ctx.extractor ctx.resolved text name = .ok values →
      (values.length ≤ 1 ∨ q.positives.length ≤ 1) ∧
        ∀ v ∈ values, Unrepeated ctx q (text.slice v)
  | and qs, text | or qs, text => UnrepeatedAll ctx qs text
  | group q, text => Unrepeated ctx q text

def UnrepeatedAll (ctx : Context) : List Query → Text → Prop
  | [], _ => True
  | q :: qs, text => Unrepeated ctx q text ∧ UnrepeatedAll ctx qs text
end

variable {ctx : Context}

theorem leavesOfAll_append (qs ps : List Query) :
    leavesOfAll (qs ++ ps) = leavesOfAll qs ++ leavesOfAll ps := by
  induction qs with
  | nil => rfl
  | cons q qs ih => simp [leavesOfAll, ih]

theorem positivesOfAll_append (qs ps : List Query) :
    positivesOfAll (qs ++ ps) = positivesOfAll qs ++ positivesOfAll ps := by
  induction qs with
  | nil => rfl
  | cons q qs ih => simp [positivesOfAll, ih]

theorem getElem?_leavesOfAll {before after : List Query} {q : Query} {n : Nat} {l : Leaf}
    (h : q.leaves[n]? = some l) :
    (leavesOfAll (before ++ q :: after))[(leavesOfAll before).length + n]? = some l := by
  obtain ⟨hn, -⟩ := List.getElem?_eq_some_iff.1 h
  rw [leavesOfAll_append, List.getElem?_append_right (Nat.le_add_right _ _),
    Nat.add_sub_cancel_left, leavesOfAll, List.getElem?_append_left hn, h]

namespace Finds

variable {q : Query} {text : Text} {x : Sighting}

/-- A sighting is one of the leaf with its number. -/
theorem getElem?_leaves (h : Finds ctx q text x) : q.leaves[x.place]? = some x.leaf := by
  induction h with
  | leaf ht hs => rfl
  | field hvalues hx ih => simpa [Sighting.below, leaves] using ih
  | and hx ih => exact getElem?_leavesOfAll ih
  | or hx ih => exact getElem?_leavesOfAll ih
  | group hx ih => exact ih

theorem place_lt (h : Finds ctx q text x) : x.place < q.leaves.length := by
  obtain ⟨hlt, -⟩ := List.getElem?_eq_some_iff.1 h.getElem?_leaves
  exact hlt

theorem within (hctx : ctx.ValuesWithin) (h : Finds ctx q text x) : x.span.Within text := by
  induction h with
  | leaf ht hs => exact within_of_mem_termSpans _ _ _ hs
  | field hvalues hx ih =>
    have hv := hctx _ _ _ hvalues _ (List.mem_append_right _ (List.mem_cons_self ..))
    exact hv.shift ih
  | and hx ih => simpa [Sighting.below, Span.shift] using ih
  | or hx ih => simpa [Sighting.below, Span.shift] using ih
  | group hx ih => exact ih

theorem positives_ne_nil (h : Finds ctx q text x) : q.positives ≠ [] := by
  induction h with
  | leaf ht hs => simp [positives]
  | field hvalues hx ih => simpa [positives] using ih
  | and hx ih => simp [positives, positivesOfAll_append, positivesOfAll, ih]
  | or hx ih => simp [positives, positivesOfAll_append, positivesOfAll, ih]
  | group hx ih => simpa [positives] using ih

end Finds

/-- Two operands with leaves outside negations are the same if there is only one such leaf. -/
theorem operand_unique {before after before' after' : List Query} {q q' : Query}
    (h : before ++ q :: after = before' ++ q' :: after') (hq : q.positives ≠ [])
    (hq' : q'.positives ≠ []) (hle : (positivesOfAll (before ++ q :: after)).length ≤ 1) :
    before = before' ∧ q = q' := by
  have hpos := List.length_pos_iff.2 hq
  have hpos' := List.length_pos_iff.2 hq'
  induction before generalizing before' with
  | nil =>
    cases before' with
    | nil => exact ⟨rfl, (List.cons.inj h).1⟩
    | cons p ps =>
      obtain ⟨rfl, rfl⟩ : q = p ∧ after = ps ++ q' :: after' := List.cons.inj h
      simp only [List.nil_append, positivesOfAll, positivesOfAll_append, List.length_append] at hle
      omega
  | cons p ps ih =>
    simp only [List.cons_append, positivesOfAll, positivesOfAll_append, List.length_append] at hle
    cases before' with
    | nil =>
      obtain ⟨rfl, -⟩ := List.cons.inj h
      omega
    | cons p' ps' =>
      obtain ⟨rfl, htail⟩ := List.cons.inj h
      have hrest : (positivesOfAll (ps ++ q :: after)).length ≤ 1 := by
        simp only [positivesOfAll, positivesOfAll_append, List.length_append]
        omega
      obtain ⟨rfl, rfl⟩ := ih htail hrest
      exact ⟨rfl, rfl⟩

theorem length_positives_le {before after : List Query} {q : Query} {n : Nat}
    (h : (positivesOfAll (before ++ q :: after)).length ≤ n) : q.positives.length ≤ n := by
  simp only [positivesOfAll, positivesOfAll_append, List.length_append] at h
  omega

/-- In a query with at most one leaf outside negations, all sightings are of that leaf. -/
theorem Finds.place_unique {q : Query} {text text' : Text} {x y : Sighting}
    (h : Finds ctx q text x) (h' : Finds ctx q text' y) (hq : q.positives.length ≤ 1) :
    x.place = y.place := by
  induction h generalizing text' y with
  | leaf ht hs =>
    cases h'
    rfl
  | field hvalues hx ih =>
    cases h' with
    | field hvalues' hy =>
      have hplace := ih hy (by simpa [positives] using hq)
      simp [Sighting.below, hplace]
  | and hx ih =>
    generalize hqs : Query.and _ = p at h'
    cases h' with
    | and hy =>
      obtain ⟨rfl, rfl⟩ :=
        operand_unique (and.inj hqs) hx.positives_ne_nil hy.positives_ne_nil hq
      exact congrArg (_ + ·) (ih hy (length_positives_le hq))
    | _ => cases hqs
  | or hx ih =>
    generalize hqs : Query.or _ = p at h'
    cases h' with
    | or hy =>
      obtain ⟨rfl, rfl⟩ :=
        operand_unique (or.inj hqs) hx.positives_ne_nil hy.positives_ne_nil hq
      exact congrArg (_ + ·) (ih hy (length_positives_le hq))
    | _ => cases hqs
  | group hx ih =>
    cases h' with
    | group hy => exact ih hy (by simpa [positives] using hq)

/-- The list has every sighting with the property, in the order of the ways to them; those of one
leaf are in the order of the text, and if `inOrder` holds, those of different leaves in the order of
the leaves. -/
structure Enumerates (P : Sighting → Prop) (inOrder : Prop) (xs : List Sighting) : Prop where
  mem_iff : ∀ x, x ∈ xs ↔ P x
  ordered : xs.Pairwise Sighting.Before
  apart : xs.Pairwise fun x y => x.place = y.place → x.span.stop ≤ y.span.start
  places : inOrder → xs.Pairwise (·.place ≤ ·.place)

/-- A sighting in one of the elements of a list of which those in `before` have been left out. -/
def Among {α : Type} (F : α → Sighting → Prop) (lift : List α → α → Sighting → Sighting)
    (before as : List α) (x : Sighting) : Prop :=
  ∃ mid a after y, as = mid ++ a :: after ∧ F a y ∧ x = lift (before ++ mid) a y

section

variable {P Q R : Sighting → Prop} {o o' o'' : Prop} {xs ys : List Sighting}

theorem enumerates_nil (h : ∀ x, ¬ P x) : Enumerates P o [] :=
  ⟨by simp [h], .nil, .nil, fun _ => .nil⟩

theorem Enumerates.append (h : Enumerates P o xs) (h' : Enumerates Q o' ys)
    (hmem : ∀ x, R x ↔ P x ∨ Q x) (hbefore : ∀ x y, P x → Q y → x.Before y)
    (hapart : ∀ x y, P x → Q y → x.place = y.place → x.span.stop ≤ y.span.start)
    (hplaces : o'' → o ∧ o' ∧ ∀ x y, P x → Q y → x.place ≤ y.place) :
    Enumerates R o'' (xs ++ ys) where
  mem_iff := by
    intro x
    rw [List.mem_append, h.mem_iff, h'.mem_iff, hmem]
  ordered := List.pairwise_append.2 ⟨h.ordered, h'.ordered, fun x hx y hy =>
    hbefore x y ((h.mem_iff x).1 hx) ((h'.mem_iff y).1 hy)⟩
  apart := List.pairwise_append.2 ⟨h.apart, h'.apart, fun x hx y hy =>
    hapart x y ((h.mem_iff x).1 hx) ((h'.mem_iff y).1 hy)⟩
  places := by
    intro hin
    obtain ⟨ho, ho', hle⟩ := hplaces hin
    exact List.pairwise_append.2 ⟨h.places ho, h'.places ho', fun x hx y hy =>
      hle x y ((h.mem_iff x).1 hx) ((h'.mem_iff y).1 hy)⟩

theorem Enumerates.below (h : Enumerates P o xs) (n skip start : Nat) :
    Enumerates (fun x => ∃ y, P y ∧ x = y.below n skip start) o
      (xs.map (·.below n skip start)) where
  mem_iff := by
    intro x
    simp [h.mem_iff, eq_comm]
  ordered := h.ordered.map _ fun x y hxy => by
    rcases hxy with hlt | ⟨heq, hle⟩
    · exact .inl (List.cons_lt_cons_iff.2 (.inr ⟨rfl, hlt⟩))
    · exact .inr ⟨congrArg (n :: ·) heq, Nat.add_le_add_left hle start⟩
  apart := h.apart.map _ fun x y hxy hplace =>
    Nat.add_le_add_left (hxy (Nat.add_left_cancel hplace)) start
  places := fun ho => (h.places ho).map _ fun x y hle => Nat.add_le_add_left hle skip

theorem Enumerates.congr (h : Enumerates P o xs) (hP : ∀ x, Q x ↔ P x) (ho : o' → o) :
    Enumerates Q o' xs :=
  ⟨fun x => by rw [hP, h.mem_iff], h.ordered, h.apart, fun h' => h.places (ho h')⟩

theorem not_among_nil {α : Type} {F : α → Sighting → Prop} {lift} {before : List α}
    (x : Sighting) : ¬ Among F lift before [] x := by
  rintro ⟨mid, a, after, y, h, -⟩
  simp at h

theorem among_cons {α : Type} {F : α → Sighting → Prop} {lift} {before as : List α} {a : α}
    {x : Sighting} :
    Among F lift before (a :: as) x ↔
      (∃ y, F a y ∧ x = lift before a y) ∨ Among F lift (before ++ [a]) as x := by
  constructor
  · rintro ⟨mid, b, after, y, h, hy, rfl⟩
    cases mid with
    | nil =>
      obtain ⟨rfl, -⟩ : a = b ∧ as = after := List.cons.inj h
      exact .inl ⟨y, hy, by rw [List.append_nil]⟩
    | cons c mid =>
      obtain ⟨rfl, rfl⟩ : a = c ∧ as = mid ++ b :: after := List.cons.inj h
      exact .inr ⟨mid, b, after, y, rfl, hy, by simp⟩
  · rintro (⟨y, hy, rfl⟩ | ⟨mid, b, after, y, rfl, hy, rfl⟩)
    · exact ⟨[], a, as, y, rfl, hy, by rw [List.append_nil]⟩
    · exact ⟨a :: mid, b, after, y, rfl, hy, by simp⟩

end

theorem finds_field_iff {name d : Text} {q : Query} {text : Text} {values : List Span}
    (hvalues : ctx.extractor ctx.resolved text name = .ok values) {x : Sighting} :
    Finds ctx (field name d q) text x ↔
      Among (fun v => Finds ctx q (text.slice v))
        (fun before v => (·.below before.length 0 v.start)) [] values x := by
  constructor
  · intro h
    cases h with
    | field hvalues' hx =>
      obtain rfl := Except.ok.inj (hvalues.symm.trans hvalues')
      exact ⟨_, _, _, _, rfl, hx, rfl⟩
  · rintro ⟨before, v, after, y, rfl, hy, rfl⟩
    exact .field hvalues hy

abbrev FindsAmong (ctx : Context) (text : Text) (before qs : List Query) : Sighting → Prop :=
  Among (fun q => Finds ctx q text)
    (fun before _ => (·.below before.length (leavesOfAll before).length 0)) before qs

theorem finds_and_iff {qs : List Query} {text : Text} {x : Sighting} :
    Finds ctx (and qs) text x ↔ FindsAmong ctx text [] qs x := by
  constructor
  · intro h
    cases h with
    | and hx => exact ⟨_, _, _, _, rfl, hx, rfl⟩
  · rintro ⟨before, q, after, y, rfl, hy, rfl⟩
    exact .and hy

theorem finds_or_iff {qs : List Query} {text : Text} {x : Sighting} :
    Finds ctx (or qs) text x ↔ FindsAmong ctx text [] qs x := by
  constructor
  · intro h
    cases h with
    | or hx => exact ⟨_, _, _, _, rfl, hx, rfl⟩
  · rintro ⟨before, q, after, y, rfl, hy, rfl⟩
    exact .or hy

theorem finds_group_iff {q : Query} {text : Text} {x : Sighting} :
    Finds ctx (group q) text x ↔ Finds ctx q text x := by
  constructor
  · intro h
    cases h with
    | group hx => exact hx
  · exact .group

theorem not_finds_not {q : Query} {text : Text} {x : Sighting} : ¬ Finds ctx (not q) text x := by
  intro h
  cases h

def Lists (P : Sighting → Prop) (inOrder : Prop) (text : Text) (offset : Nat)
    (fs : List Fragment) : Prop :=
  ∃ xs, Enumerates P inOrder xs ∧ fs = xs.map fun x => (x.fragment text).shift offset

variable {text : Text} {offset : Nat} {fs : List Fragment}

theorem lists_nil {P : Sighting → Prop} {o : Prop} (h : ∀ x, ¬ P x) : Lists P o text offset [] :=
  ⟨[], enumerates_nil h, rfl⟩

theorem Lists.congr {P Q : Sighting → Prop} {o o' : Prop} (h : Lists P o text offset fs)
    (hP : ∀ x, Q x ↔ P x) (ho : o' → o) : Lists Q o' text offset fs := by
  obtain ⟨xs, hxs, rfl⟩ := h
  exact ⟨xs, hxs.congr hP ho, rfl⟩

theorem lists_leafFragments (l : Leaf)
    (hfs : Gives (leafFragments ctx l text offset) (.ok fs)) :
    Lists (Finds ctx (leaf l) text) True text offset fs := by
  obtain ⟨t, ht, hfs⟩ := hfs.exists_of_bind (ctx.transparent_fetch l) fun _ => transparent_pure _
  have hcompile : CompiledTerm.compile (ctx.key l) = .ok t := (ctx.gives_fetch l).unique ht
  obtain rfl := Except.ok.inj ((gives_pure _).unique hfs)
  have hpair := pairwise_termSpans (t.matcher ctx.ignoreCase) text
  refine ⟨(termSpans (t.matcher ctx.ignoreCase) text).map fun s => ⟨[], 0, l, s⟩,
    ⟨?_, ?_, ?_, ?_⟩, ?_⟩
  · intro x
    constructor
    · intro hx
      obtain ⟨s, hs, rfl⟩ := List.mem_map.1 hx
      exact .leaf hcompile hs
    · intro hx
      cases hx with
      | leaf ht hs =>
        obtain rfl := Except.ok.inj (hcompile.symm.trans ht)
        exact List.mem_map_of_mem hs
  · exact hpair.map _ fun s s' hle => .inr ⟨rfl, hle⟩
  · exact hpair.map _ fun s s' hle _ => hle
  · exact fun _ => hpair.map _ fun s s' _ => Nat.le_refl 0
  · simp [Sighting.fragment, Fragment.shift, Span.shift, Function.comp_def]

theorem fragment_below {v : Span} (hv : v.Within text) {x : Sighting}
    (hx : x.span.Within (text.slice v)) (n skip offset : Nat) :
    ((x.below n skip v.start).fragment text).shift offset =
      (x.fragment (text.slice v)).shift (offset + v.start) := by
  rw [← Fragment.shift_shift]
  simp [Sighting.fragment, Sighting.below, Fragment.shift, Span.slice_shift hv hx]

/-- By induction on the values: the sightings in one come before those in the next. -/
theorem lists_sliceFragments {find : Text → Nat → Cached (List Fragment)}
    {F : Text → Sighting → Prop} {o : Text → Prop} (hfind : ∀ t n, Transparent (find t n))
    (h : ∀ t n fs, Gives (find t n) (.ok fs) → Lists (F t) (o t) t n fs)
    (hF : ∀ t x, F t x → x.span.Within t) {values : List Span} (before : List Span)
    (hwithin : ∀ v ∈ values, v.Within text) (hpair : values.Pairwise (·.stop ≤ ·.start))
    (hfs : Gives (sliceFragments find text offset values) (.ok fs)) :
    Lists (Among (fun v => F (text.slice v)) (fun before v => (·.below before.length 0 v.start))
        before values)
      ((values.length ≤ 1 ∨ ∀ t t' x y, F t x → F t' y → x.place = y.place) ∧
        ∀ v ∈ values, o (text.slice v))
      text offset fs := by
  induction values generalizing before fs with
  | nil =>
    obtain rfl : [] = fs := Except.ok.inj ((gives_pure []).unique hfs)
    exact lists_nil not_among_nil
  | cons v rest ih =>
    obtain ⟨hv, hrest⟩ := List.forall_mem_cons.1 hwithin
    obtain ⟨hbehind, hpair⟩ := List.pairwise_cons.1 hpair
    obtain ⟨here, others, rfl, hhere, hothers⟩ := exists_of_gives_append (hfind _ _)
      (transparent_sliceFragments hfind text offset rest) hfs
    obtain ⟨xs, hxs, rfl⟩ := h _ _ _ hhere
    obtain ⟨ys, hys, rfl⟩ := ih (before ++ [v]) hrest hpair hothers
    refine ⟨_, (hxs.below before.length 0 v.start).append hys (fun x => among_cons) ?_ ?_ ?_, ?_⟩
    · rintro _ _ ⟨x, -, rfl⟩ ⟨mid, w, after, y, -, -, rfl⟩
      exact .inl (List.cons_lt_cons_iff.2 (.inl (by simp)))
    · rintro _ _ ⟨x, hx, rfl⟩ ⟨mid, w, after, y, rfl, -, rfl⟩ -
      have hstop : v.start + x.span.stop ≤ v.stop := Span.stop_shift_le hv (hF _ _ hx)
      have hnext : v.stop ≤ w.start := hbehind w (by simp)
      exact Nat.le_trans hstop (Nat.le_trans hnext (Nat.le_add_right _ _))
    · rintro ⟨honly, ho⟩
      obtain ⟨hhead, htail⟩ := List.forall_mem_cons.1 ho
      refine ⟨hhead, ⟨?_, htail⟩, ?_⟩
      · exact honly.imp_left fun hle => Nat.le_trans (Nat.le_add_right _ 1) hle
      · rintro _ _ ⟨x, hx, rfl⟩ ⟨mid, w, after, y, rfl, hy, rfl⟩
        rcases honly with hle | hplace
        · simp at hle
        · exact Nat.le_of_eq (congrArg (0 + ·) (hplace _ _ x y hx hy))
    · rw [List.map_append, List.map_map]
      refine congrArg (· ++ _) (List.map_congr_left fun x hx => ?_)
      exact (fragment_below hv (hF _ _ ((hxs.mem_iff x).1 hx)) _ _ _).symm

theorem lists_operands {before qs : List Query} {q : Query} {here others : List Fragment}
    (hhere : Lists (Finds ctx q text) (Unrepeated ctx q text) text offset here)
    (hothers : Lists (FindsAmong ctx text (before ++ [q]) qs) (UnrepeatedAll ctx qs text) text
      offset others) :
    Lists (FindsAmong ctx text before (q :: qs)) (UnrepeatedAll ctx (q :: qs) text) text offset
      (here ++ others) := by
  obtain ⟨xs, hxs, rfl⟩ := hhere
  obtain ⟨ys, hys, rfl⟩ := hothers
  have hplace : ∀ x y, (∃ x', Finds ctx q text x' ∧
      x = x'.below before.length (leavesOfAll before).length 0) →
      FindsAmong ctx text (before ++ [q]) qs y → x.place < y.place := by
    rintro _ _ ⟨x, hx, rfl⟩ ⟨mid, p, after, y, -, -, rfl⟩
    have hlt := hx.place_lt
    simp only [Sighting.below, leavesOfAll_append, leavesOfAll, List.length_append,
      List.length_nil]
    omega
  refine ⟨_, (hxs.below before.length (leavesOfAll before).length 0).append hys
    (fun x => among_cons) ?_ ?_ ?_, ?_⟩
  · rintro _ _ ⟨x, -, rfl⟩ ⟨mid, p, after, y, -, -, rfl⟩
    exact .inl (List.cons_lt_cons_iff.2 (.inl (by simp)))
  · intro x y hx hy heq
    exact absurd heq (Nat.ne_of_lt (hplace x y hx hy))
  · rintro ⟨hhead, htail⟩
    exact ⟨hhead, htail, fun x y hx hy => Nat.le_of_lt (hplace x y hx hy)⟩
  · simp [Sighting.below, Sighting.fragment, Span.shift, Function.comp_def]

mutual
/-- By induction on the query. -/
theorem lists_fragmentsAt (hwithin : ctx.ValuesWithin) (happart : ctx.ValuesApart) (q : Query)
    (text : Text) (offset : Nat) (fs : List Fragment)
    (hfs : Gives (fragmentsAt ctx q text offset) (.ok fs)) :
    Lists (Finds ctx q text) (Unrepeated ctx q text) text offset fs := by
  cases q with
  | leaf l =>
    rw [fragmentsAt] at hfs
    exact (lists_leafFragments l hfs).congr (fun _ => .rfl) fun _ => trivial
  | field name d q =>
    rw [fragmentsAt] at hfs
    obtain ⟨values, hvalues, hfs⟩ := hfs.exists_of_bind (transparent_liftExcept _) fun _ =>
      transparent_sliceFragments (transparent_fragmentsAt ctx q) ..
    have hfound : ctx.extractor ctx.resolved text name = .ok values :=
      (gives_liftExcept _).unique hvalues
    refine (lists_sliceFragments (transparent_fragmentsAt ctx q)
      (lists_fragmentsAt hwithin happart q) (fun t x hx => hx.within hwithin) []
      (hwithin _ _ _ hfound) (happart _ _ _ hfound) hfs).congr
      (fun _ => finds_field_iff hfound) fun hin => ?_
    obtain ⟨honly, hin⟩ := hin values hfound
    exact ⟨honly.imp_right fun hle t t' x y hx hy => hx.place_unique hy hle, hin⟩
  | not q =>
    rw [fragmentsAt] at hfs
    obtain rfl : [] = fs := Except.ok.inj ((gives_pure []).unique hfs)
    exact lists_nil fun _ => not_finds_not
  | and qs =>
    rw [fragmentsAt] at hfs
    exact (lists_fragmentsOfAll hwithin happart [] qs text offset fs hfs).congr
      (fun _ => finds_and_iff) id
  | or qs =>
    rw [fragmentsAt] at hfs
    exact (lists_fragmentsOfAll hwithin happart [] qs text offset fs hfs).congr
      (fun _ => finds_or_iff) id
  | group q =>
    rw [fragmentsAt] at hfs
    exact (lists_fragmentsAt hwithin happart q text offset fs hfs).congr
      (fun _ => finds_group_iff) id

theorem lists_fragmentsOfAll (hwithin : ctx.ValuesWithin) (happart : ctx.ValuesApart)
    (before qs : List Query) (text : Text) (offset : Nat) (fs : List Fragment)
    (hfs : Gives (fragmentsOfAll ctx qs text offset) (.ok fs)) :
    Lists (FindsAmong ctx text before qs) (UnrepeatedAll ctx qs text) text offset fs := by
  cases qs with
  | nil =>
    rw [fragmentsOfAll] at hfs
    obtain rfl : [] = fs := Except.ok.inj ((gives_pure []).unique hfs)
    exact lists_nil not_among_nil
  | cons q qs =>
    rw [fragmentsOfAll] at hfs
    have hrest := transparent_fragmentsOfAll ctx qs text offset
    obtain ⟨here, others, rfl, hhere, hothers⟩ :=
      exists_of_gives_append (transparent_fragmentsAt ctx q text offset) hrest hfs
    exact lists_operands (lists_fragmentsAt hwithin happart q text offset here hhere)
      (lists_fragmentsOfAll hwithin happart (before ++ [q]) qs text offset others hothers)
end

/-- Fragments are those of all sightings, in the order of the ways to them, so that fragments of one
leaf are in the order of the text. Those of different leaves are in the order of the leaves, unless
a field with several leaves has several values. -/
theorem fragments_ordered {r : Resolved} {q : Query} {text : Text} {c : Cache} {fs : List Fragment}
    (hc : c.Faithful) (hfs : (q.fragments { resolved := r } text c).1 = .ok fs) :
    ∃ xs : List Sighting, fs = xs.map (·.fragment text) ∧
      (∀ x, x ∈ xs ↔ Finds { resolved := r } q text x) ∧
      (∀ x ∈ xs, q.leaves[x.place]? = some x.leaf ∧ x.span.Within text) ∧
      xs.Pairwise Sighting.Before ∧
      (xs.Pairwise fun x y => x.place = y.place → x.span.stop ≤ y.span.start) ∧
      (Unrepeated { resolved := r } q text → xs.Pairwise fun x y =>
        x.place < y.place ∨ x.place = y.place ∧ x.span.stop ≤ y.span.start) := by
  have hwithin := Context.valuesWithin_taggedFields r
  have hgives := (transparent_fragmentsAt { resolved := r } q text 0).gives hc hfs
  obtain ⟨xs, hxs, rfl⟩ :=
    lists_fragmentsAt hwithin (Context.valuesApart_taggedFields r) q text 0 fs hgives
  refine ⟨xs, ?_, hxs.mem_iff, fun x hx => ?_, hxs.ordered, hxs.apart, fun hin => ?_⟩
  · simp only [Fragment.shift_zero]
  · have hfinds := (hxs.mem_iff x).1 hx
    exact ⟨hfinds.getElem?_leaves, hfinds.within hwithin⟩
  · refine ((hxs.places hin).and hxs.apart).imp fun h => ?_
    obtain ⟨hle, hapart⟩ := h
    exact (Nat.lt_or_eq_of_le hle).imp_right fun heq => ⟨heq, hapart heq⟩

/-- A leaf in a field with two values, in front of a leaf whose match lies between them. -/
theorem fragments_ordered_values :
    let text := ['f', ':', 'a', ' ', 'b', ' ', 'f', ':', 'a']
    let q : Query := .and [.field ['f'] [':'] (.word ['a']), .word ['b']]
    let fs : List Fragment :=
      [⟨['a'], ⟨2, 3⟩, ['a']⟩, ⟨['a'], ⟨8, 9⟩, ['a']⟩, ⟨['b'], ⟨4, 5⟩, ['b']⟩]
    ∃ r, ({ ignoreCase := false } : Options).resolve = .ok r ∧
      (q.fragments { resolved := r } text {}).1 = .ok fs ∧
      Unrepeated { resolved := r } q text ∧
      ∃ xs : List Sighting, fs = xs.map (·.fragment text) ∧
        xs.Pairwise fun x y =>
          x.place < y.place ∨ x.place = y.place ∧ x.span.stop ≤ y.span.start := by
  intro text q fs
  let r : Resolved := ⟨{ ignoreCase := false }, Delimiter.choice [Pattern.escape [' ']]⟩
  have hr : ({ ignoreCase := false } : Options).resolve = .ok r := rfl
  have hfs : (q.fragments { resolved := r } text {}).1 = .ok fs := by decide +kernel
  have honce : Unrepeated { resolved := r } q text := by
    refine ⟨fun values _ => ⟨.inr (by decide), fun v _ => trivial⟩, trivial, trivial⟩
  obtain ⟨xs, hxs, -, -, -, -, hordered⟩ := fragments_ordered Cache.faithful_empty hfs
  exact ⟨r, hr, hfs, honce, xs, hxs, hordered honce⟩

/-- Two leaves in a field with two values: the second leaf in the first value comes before the first
leaf in the second value. -/
theorem fragments_interleaved :
    let q : Query := .field ['f'] [':'] (.group (.and [.word ['a'], .word ['b']]))
    ∃ r fs, ({ ignoreCase := false } : Options).resolve = .ok r ∧
      (q.fragments { resolved := r }
        ['f', ':', 'a', ' ', 'b', ' ', 'f', ':', 'a', ' ', 'b'] {}).1 = .ok fs ∧
      fs = [⟨['a'], ⟨2, 3⟩, ['a']⟩, ⟨['b'], ⟨4, 5⟩, ['b']⟩, ⟨['a'], ⟨8, 9⟩, ['a']⟩,
        ⟨['b'], ⟨10, 11⟩, ['b']⟩] ∧
      q.terms = [['a'], ['b']] ∧
      ¬ (fs.map fun f => q.terms.idxOf f.term).Pairwise (· ≤ ·) := by
  intro q
  exact ⟨_, _, rfl, by decide +kernel, rfl, rfl, by decide⟩

end Query

end TextSieve
